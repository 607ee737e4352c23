import Astronomer.Base.Keyed
import Astronomer.Base.ObjectStore
import Astronomer.Base.Run
import Astronomer.Base.Versioned
import Astronomer.DeliveryProvider.Build

/-!
# Numbering delivery snapshots

`finalizeSnapshot` reads the desired deployments, lets the receipt number what it has read and
finalises the receipt: three queries, between which calls of any number of servers interleave.
One number stands for one content; the numbers follow the desired generations only as long as
no receipt is advanced with rows that have changed since they were read.
-/

namespace Astronomer.DeliveryProvider

open List

variable {s' : Snapshot} {contentDigest : String} {receipt : Option Receipt} {id : Nat}
  {next : Next}

open Agent

/-! ## The receipt -/

structure Receipt where
  desiredSnapshotGeneration : Int
  desiredContentDigest : String
  desiredSnapshotEtag : String := ""
  credentialContentDigest : String
  credentialEpoch : Int

def Receipt.differs (r : Receipt) (contentDigest credentialDigest : String) : Bool :=
  r.desiredContentDigest != contentDigest || r.credentialContentDigest != credentialDigest

def advanceDeliveryAssignmentSnapshot (contentDigest credentialDigest : String) :
    Option Receipt → Receipt
  | none => ⟨1, contentDigest, "", credentialDigest, 1⟩
  | some r =>
    { desiredSnapshotGeneration :=
        if r.differs contentDigest credentialDigest then r.desiredSnapshotGeneration + 1
        else r.desiredSnapshotGeneration
      desiredContentDigest := contentDigest
      desiredSnapshotEtag :=
        if r.differs contentDigest credentialDigest then "" else r.desiredSnapshotEtag
      credentialEpoch :=
        if r.credentialContentDigest != credentialDigest then r.credentialEpoch + 1
        else r.credentialEpoch
      credentialContentDigest := credentialDigest }

def finalizeDeliveryAssignmentSnapshot (etag : String) (generation : Int) (contentDigest : String)
    (receipt : Option Receipt) : Option Receipt :=
  (receipt.filter fun r => r.desiredSnapshotGeneration == generation &&
    r.desiredContentDigest == contentDigest).map ({ · with desiredSnapshotEtag := etag })

/-! ## Calls -/

structure Request where
  (clusterID protocolVersion : String)
  ackedSnapshotGeneration : Int := 0
  ackedETag : String := ""
  inventory : String := ""

def Request.validate (lib : Library) (r : Request) : Except Err Unit := do
  require (r.protocolVersion == "2.0") "unsupported delivery protocol version"
  require (validUUID r.clusterID) "cluster ID must be a canonical UUID"
  require (decide (0 ≤ r.ackedSnapshotGeneration))
    "acknowledged snapshot generation cannot be negative"
  require (r.ackedETag == "" || validDigest r.ackedETag)
    "acknowledged ETag must be a sha256 digest"
  lib.validateInventory r.inventory

inductive Stage where
  | list
  | release (rows : List AssignmentRow) (d : Draft)
  | advance (b : Built)
  | finalize (b : Built) (response : Snapshot)

structure Call where
  id : Nat
  request : Request
  attempt : Nat := 0
  stage : Stage := .list

abbrev Deployments := Keyed AssignmentRow.id

structure World where
  rows : Deployments
  system : Option SystemReleaseRow := none
  receipt : Option Receipt := none
  calls : List Call := []
  served : List Snapshot := []

inductive Next where
  | continue (stage : Stage)
  | retry
  | reply (answer : Except Err Snapshot)

variable (p : Provider) (cluster : String)

def World.listAssignments (w : World) : List AssignmentRow :=
  (byDeployment AssignmentRow.id
    (w.rows.rows.filter fun row => row.clusterID == cluster && !row.removed)).take
      (objectLimit + 1)

def Built.numbered (b : Built) (r : Receipt) : Snapshot :=
  let response := { b.response with
    snapshotGeneration := r.desiredSnapshotGeneration, credentialEpoch := r.credentialEpoch }
  { response with eTag := p.digest (canonical response) }

def answer (request : Request) (b : Built) (response : Snapshot) : Except Err Snapshot :=
  if request.ackedSnapshotGeneration = response.snapshotGeneration ∧
      request.ackedETag = response.eTag then
    pure
      { protocolVersion := "2.0", snapshotGeneration := response.snapshotGeneration
        eTag := response.eTag, notModified := true, fullSnapshot := false
        credentialEpoch := response.credentialEpoch }
  else do
    let hydrated ← hydrateCredentials p b response
    wrap "built invalid delivery snapshot" (hydrated.validate p.parsers)
    pure hydrated

def Next.ofBuild {α : Type} (stage : α → Stage) : Except Err α → Next
  | .ok a => .continue (stage a)
  | .error err => .reply (.error err)

def Call.query (authorize : Authorizer) (w : World) (c : Call) : Option Receipt × Next :=
  match c.stage with
  | .list =>
    let rows := w.listAssignments cluster
    (w.receipt, .ofBuild (.release rows) (buildRows p authorize cluster rows))
  | .release rows d => (w.receipt, .ofBuild .advance (buildSystem p rows d w.system))
  | .advance b =>
    let r := advanceDeliveryAssignmentSnapshot b.contentDigest b.credentialDigest w.receipt
    (some r, .continue (.finalize b (b.numbered p r)))
  | .finalize b response =>
    match finalizeDeliveryAssignmentSnapshot response.eTag response.snapshotGeneration
      b.contentDigest w.receipt with
    | none => (w.receipt, .retry)
    | some r => (some r, .reply (answer p c.request b response))

/-! ## Runs -/

inductive Event where
  | change (rows : Deployments) (system : Option SystemReleaseRow)
  | call (id : Nat) (request : Request)
  | query (id : Nat) (fault : Fault) (authorize : Authorizer)

def World.call? (w : World) (id : Nat) : Option Call := w.calls.find? (·.id == id)

def World.returned (w : World) (id : Nat) : World :=
  { w with calls := w.calls.filter (·.id != id) }

def World.goOn (w : World) (c : Call) : World :=
  { w with calls := c :: w.calls.filter (·.id != c.id) }

def maxSnapshotFinalizeAttempts : Nat := 3

def World.resolve (w : World) (c : Call) : Next → World
  | .continue stage => w.goOn { c with stage }
  | .retry =>
    if c.attempt + 1 < maxSnapshotFinalizeAttempts then
      w.goOn { c with attempt := c.attempt + 1, stage := .list }
    else w.returned c.id
  | .reply (.error _) => w.returned c.id
  | .reply (.ok s) => { w.returned c.id with served := w.served ++ [s] }

def World.asked (w : World) (c : Call) (authorize : Authorizer) : Fault → World
  | .lost => w.returned c.id
  | .applied => { w with receipt := (c.query p cluster authorize w).1 }.returned c.id
  | .none => { w with receipt := (c.query p cluster authorize w).1 }.resolve c
      (c.query p cluster authorize w).2

def World.step (w : World) : Event → World
  | .change rows system => { w with rows, system }
  | .call id request =>
    if (w.call? id).isNone ∧ request.validate p.toLibrary = .ok () ∧
      request.clusterID = cluster then
      w.goOn { id, request }
    else w
  | .query id fault authorize =>
    match w.call? id with
    | none => w
    | some c => w.asked p cluster c authorize fault

/-! ## What a step does -/

def Stage.response? : Stage → Option Snapshot
  | .finalize _ response => some response
  | _ => none

def World.numbered (w : World) : List Snapshot :=
  w.calls.filterMap (·.stage.response?) ++ w.served.filter (·.fullSnapshot)

def Stage.Sound : Stage → Prop
  | .list => True
  | .release rows d => ∀ e ∈ d.entries, ∃ row ∈ rows, e = row.entry
  | .advance b => (∀ e ∈ entries b.response, ∃ row ∈ b.rows, e = row.entry) ∧
      b.contentDigest = p.digest (content b.response)
  | .finalize b response => b.contentDigest = p.digest (content response)

def Receipt.generation (receipt : Option Receipt) : Int :=
  (receipt.map Receipt.desiredSnapshotGeneration).getD 0

def Receipt.stands (receipt : Option Receipt) : Option (String × Int) :=
  receipt.map fun r => (r.desiredContentDigest, r.credentialEpoch)

variable {p cluster} {w w' : World} {c : Call} {authorize : Authorizer} {s : Snapshot} {b : Built}
  {r : Receipt} {e : Event}

theorem SameMetadata.content_eq {s} (h : SameMetadata s s') :
    content s = content s' := by
  simp only [SameMetadata, Snapshot.mk.injEq] at h
  simp only [content, canonical, h]

def Stands (p : Provider) (v : Option (String × Int)) (s : Snapshot) : Prop :=
  v = some (p.digest (content s), s.credentialEpoch)

theorem ages_advance {credentialDigest} : Ages Receipt.generation Receipt.stands receipt
      (some (advanceDeliveryAssignmentSnapshot contentDigest credentialDigest receipt)) := by
  cases receipt with
  | none => exact .inl Int.zero_lt_one
  | some r =>
    cases hd : r.differs contentDigest credentialDigest with
    | true =>
      refine .inl ?_
      simp only [Receipt.generation, Option.map_some, Option.getD_some,
        advanceDeliveryAssignmentSnapshot, hd, if_true]
      omega
    | false =>
      -- the same digests, so the epoch stays as well
      have hs := hd
      simp only [Receipt.differs, Bool.or_eq_false_iff, bne_eq_false_iff_eq] at hs
      refine .inr ⟨?_, ?_⟩
      · simp [Receipt.generation, advanceDeliveryAssignmentSnapshot, hd]
      · simp [Receipt.stands, advanceDeliveryAssignmentSnapshot, hs]

theorem ages_query :
    Ages Receipt.generation Receipt.stands w.receipt (c.query p cluster authorize w).1 := by
  unfold Call.query
  split
  · exact .refl
  · exact .refl
  · exact ages_advance
  · split
    · exact .refl
    next h =>
      simp only [finalizeDeliveryAssignmentSnapshot, Option.map_eq_some_iff,
        Option.filter_eq_some_iff] at h
      obtain ⟨r0, ⟨hr, -⟩, rfl⟩ := h
      exact .inr (hr ▸ ⟨rfl, rfl⟩)

theorem answer_full {request response} (h : answer p request b response = .ok s)
    (hf : s.fullSnapshot) :
    SameMetadata s response := by
  unfold answer at h
  split at h
  · cases h
    cases hf
  · simp only [bind_eq_ok, pure_eq_ok] at h
    obtain ⟨hy, hh, _, -, rfl⟩ := h
    exact hydrateCredentials_same hh

theorem call?_eq_some (h : w.call? id = some c) : c ∈ w.calls ∧ c.id = id :=
  ⟨mem_of_find?_eq_some h, by simpa using find?_some h⟩

theorem mem_numbered_goOn (h : s ∈ (w.goOn c).numbered) :
    c.stage.response? = some s ∨ s ∈ w.numbered := by
  simp only [World.goOn, World.numbered, filterMap_cons, mem_append, mem_filterMap,
    mem_filter] at h ⊢
  split at h <;> grind

theorem mem_numbered_returned (h : s ∈ (w.returned id).numbered) : s ∈ w.numbered := by
  simp only [World.returned, World.numbered, mem_append, mem_filterMap,
    mem_filter] at h ⊢
  grind

theorem mem_numbered_resolve (h : s ∈ (w.resolve c next).numbered) :
    s ∈ w.numbered ∨ (∃ stage, next = .continue stage ∧ stage.response? = some s) ∨
      next = .reply (.ok s) ∧ s.fullSnapshot := by
  cases next with
  | «continue» stage =>
    rcases mem_numbered_goOn h with h | h
    · exact .inr (.inl ⟨stage, rfl, h⟩)
    · exact .inl h
  | retry =>
    simp only [World.resolve] at h
    split at h
    · rcases mem_numbered_goOn h with h | h
      · cases h
      · exact .inl h
    · exact .inl (mem_numbered_returned h)
  | reply reply =>
    cases reply with
    | error _ => exact .inl (mem_numbered_returned h)
    | ok s' =>
      simp only [World.resolve, World.numbered, filter_append, mem_append] at h
      rcases h with h | h | h
      · exact .inl (mem_numbered_returned (mem_append_left _ h))
      · exact .inl (mem_append_right _ h)
      · obtain ⟨hs, hf⟩ := mem_filter.mp h
        rw [mem_singleton.mp hs] at hf ⊢
        exact .inr (.inr ⟨rfl, hf⟩)

theorem Next.ofBuild_eq_continue {α : Type} {f : α → Stage} {stage x} :
    Next.ofBuild f x = .continue stage ↔ ∃ a, x = .ok a ∧ f a = stage := by
  cases x <;> simp [ofBuild]

theorem Next.ofBuild_ne_reply {α : Type} {f : α → Stage} {x} :
    Next.ofBuild f x ≠ .reply (.ok s) := by
  cases x <;> simp [ofBuild]

theorem query_continue {stage : Stage} (h : (c.query p cluster authorize w).2 = .continue stage)
    (hs : stage.response? = some s) :
    ∃ b, c.stage = .advance b ∧ (c.query p cluster authorize w).1 =
        some (advanceDeliveryAssignmentSnapshot b.contentDigest b.credentialDigest w.receipt) ∧
      s = b.numbered p
        (advanceDeliveryAssignmentSnapshot b.contentDigest b.credentialDigest w.receipt) := by
  unfold Call.query at h ⊢
  split at h
  · obtain ⟨_, -, rfl⟩ := Next.ofBuild_eq_continue.mp h
    cases hs
  · obtain ⟨_, -, rfl⟩ := Next.ofBuild_eq_continue.mp h
    cases hs
  next b hsg =>
    cases h
    exact ⟨b, hsg, rfl, (Option.some.inj hs).symm⟩
  · split at h <;> cases h

theorem query_reply (h : (c.query p cluster authorize w).2 = .reply (.ok s))
    (hf : s.fullSnapshot) :
    ∃ b response, c.stage = .finalize b response ∧ SameMetadata s response := by
  unfold Call.query at h
  split at h
  · exact absurd h Next.ofBuild_ne_reply
  · exact absurd h Next.ofBuild_ne_reply
  · cases h
  next b response hsg =>
    split at h
    · cases h
    · simp only [Next.reply.injEq] at h
      exact ⟨b, response, hsg, answer_full h hf⟩

/-- Where a numbered response comes from: it had its number before the event, or the receipt
has just given it one. -/
inductive Numbers (p : Provider) (w : World) (e : Event) (w' : World) (s : Snapshot) : Prop
  | before {s0 : Snapshot} (h : s0 ∈ w.numbered) (hsame : SameMetadata s s0)
  | given {id : Nat} {fault : Fault} {authorize : Authorizer} {c : Call} {b : Built}
      (hevent : e = .query id fault authorize) (hcall : w.call? id = some c)
      (hstage : c.stage = .advance b)
      (hreceipt : w'.receipt =
        some (advanceDeliveryAssignmentSnapshot b.contentDigest b.credentialDigest w.receipt))
      (heq : s = b.numbered p
        (advanceDeliveryAssignmentSnapshot b.contentDigest b.credentialDigest w.receipt))

theorem Numbers.of_mem (h : s ∈ w.numbered) : Numbers p w e w' s := .before h rfl

theorem resolve_keeps :
    (w.resolve c next).receipt = w.receipt ∧ (w.resolve c next).rows = w.rows := by
  cases next with
  | «continue» stage => exact ⟨rfl, rfl⟩
  | retry =>
    simp only [World.resolve]
    split <;> exact ⟨rfl, rfl⟩
  | reply reply => cases reply <;> exact ⟨rfl, rfl⟩

theorem numbers_asked (hc : w.call? id = some c) {fault}
    (h : s ∈ (w.asked p cluster c authorize fault).numbered) :
    Numbers p w (.query id fault authorize) (w.asked p cluster c authorize fault) s := by
  cases fault with
  | lost | applied => exact .of_mem (mem_numbered_returned h)
  | none =>
    rcases mem_numbered_resolve h with h | ⟨stage, hn, hs⟩ | ⟨hn, hf⟩
    · exact .of_mem h
    · obtain ⟨b, hsg, hr, heq⟩ := query_continue hn hs
      exact .given rfl hc hsg (resolve_keeps.1.trans hr) heq
    · obtain ⟨b, response, hsg, hsm⟩ := query_reply hn hf
      have hmem : response ∈ w.calls.filterMap (·.stage.response?) :=
        mem_filterMap.mpr ⟨c, (call?_eq_some hc).1, by rw [hsg]; rfl⟩
      exact .before (mem_append_left _ hmem) hsm

theorem numbers_step (h : s ∈ (w.step p cluster e).numbered) :
    Numbers p w e (w.step p cluster e) s := by
  cases e with
  | change rows system => exact .of_mem h
  | call id request =>
    simp only [World.step] at h ⊢
    split at h
    · rcases mem_numbered_goOn h with h | h
      · cases h
      · exact .of_mem h
    · exact .of_mem h
  | query id fault authorize =>
    simp only [World.step] at h ⊢
    split at h
    · exact .of_mem h
    next c hc => exact numbers_asked hc h

theorem ages_step :
    Ages Receipt.generation Receipt.stands w.receipt (w.step p cluster e).receipt := by
  cases e with
  | change rows system => exact .refl
  | call id request =>
    simp only [World.step]
    split <;> exact .refl
  | query id fault authorize =>
    simp only [World.step]
    split
    · exact .refl
    · cases fault with
      | lost => exact .refl
      | applied => exact ages_query
      | none =>
        simp only [World.asked, resolve_keeps]
        exact ages_query

theorem sound_query {stage : Stage} (hs : c.stage.Sound p)
    (h : (c.query p cluster authorize w).2 = .continue stage) : stage.Sound p := by
  unfold Call.query at h
  split at h
  · obtain ⟨d, hd, rfl⟩ := Next.ofBuild_eq_continue.mp h
    exact fun e he => exists_row_of_buildRows hd he
  next rows d hsg =>
    rw [hsg] at hs
    obtain ⟨b, hb, rfl⟩ := Next.ofBuild_eq_continue.mp h
    obtain ⟨hen, hrs, hdg, -⟩ := buildSystem_eq_ok hb
    refine ⟨fun e he => ?_, hdg⟩
    rw [hrs]
    exact hs e (hen ▸ he)
  next b hsg =>
    rw [hsg] at hs
    cases h
    exact hs.2
  · split at h <;> cases h

theorem mem_calls_resolve {c' : Call} (h : c' ∈ (w.resolve c next).calls) :
    c' ∈ w.calls ∨ next = .continue c'.stage ∨ c'.stage = .list := by
  cases next with
  | «continue» stage =>
    rcases mem_cons.mp h with rfl | h
    · exact .inr (.inl rfl)
    · exact .inl (mem_of_mem_filter h)
  | retry =>
    simp only [World.resolve] at h
    split at h
    · rcases mem_cons.mp h with rfl | h
      · exact .inr (.inr rfl)
      · exact .inl (mem_of_mem_filter h)
    · exact .inl (mem_of_mem_filter h)
  | reply reply =>
    cases reply with
    | error _ | ok s => exact .inl (mem_of_mem_filter h)

def World.Sound (p : Provider) (w : World) : Prop := ∀ c ∈ w.calls, c.stage.Sound p

theorem World.Sound.step (h : w.Sound p) : (w.step p cluster e).Sound p := by
  intro c' hc'
  cases e with
  | change rows system => exact h c' hc'
  | call id request =>
    simp only [World.step] at hc'
    split at hc'
    · rcases mem_cons.mp hc' with rfl | hc'
      · trivial
      · exact h c' (mem_of_mem_filter hc')
    · exact h c' hc'
  | query id fault authorize =>
    simp only [World.step] at hc'
    split at hc'
    · exact h c' hc'
    next c hc =>
      cases fault with
      | lost | applied => exact h c' (mem_of_mem_filter hc')
      | none =>
        rcases mem_calls_resolve hc' with hc' | hn | hl
        · exact h c' hc'
        · exact sound_query (h c (call?_eq_some hc).1) hn
        · rw [hl]
          trivial

/-! ## One number stands for one content -/

structure Faithful (p : Provider) (w : World) (s : Snapshot) : Prop where
  current : Current Receipt.generation Receipt.stands (Stands p) w.receipt s.snapshotGeneration s
  tagged : s.eTag = p.digest (canonical s)

def SameContent (p : Provider) (s s' : Snapshot) : Prop :=
  p.digest (content s) = p.digest (content s') ∧ s.credentialEpoch = s'.credentialEpoch

structure Consistent (p : Provider) (w : World) : Prop where
  sound : w.Sound p
  faithful : ∀ s ∈ w.numbered, Faithful p w s
  agree : ∀ s ∈ w.numbered, ∀ s' ∈ w.numbered,
    s.snapshotGeneration = s'.snapshotGeneration → SameContent p s s'

theorem SameMetadata.header_eq {s : Snapshot} (h : SameMetadata s s') :
    s.snapshotGeneration = s'.snapshotGeneration ∧ s.eTag = s'.eTag ∧
      s.credentialEpoch = s'.credentialEpoch := by
  simp only [SameMetadata, Snapshot.mk.injEq] at h
  simp only [h, and_self]

theorem Faithful.of_same {s0} (h : Faithful p w s0) (hs : SameMetadata s s0) :
    Faithful p w s := by
  obtain ⟨hg, het, he⟩ := hs.header_eq
  refine ⟨?_, by rw [het, hs.canonical_eq, h.tagged]⟩
  rw [hg]
  refine ⟨h.current.1, fun heq => ?_⟩
  rw [Stands, hs.content_eq, he]
  exact h.current.2 heq

theorem Faithful.step (h : Faithful p w s) : Faithful p (w.step p cluster e) s :=
  ⟨h.current.of_ages ages_step, h.tagged⟩

theorem faithful_numbered (hr : w.receipt = some r)
    (hdg : r.desiredContentDigest = p.digest (content b.response)) :
    Faithful p w (b.numbered p r) := by
  refine ⟨?_, rfl⟩
  rw [hr]
  refine ⟨le_refl r.desiredSnapshotGeneration, fun _ => ?_⟩
  show some (r.desiredContentDigest, r.credentialEpoch) = some _
  rw [hdg]
  rfl

theorem Faithful.sameContent {s : Snapshot} (h : Faithful p w s) (h' : Faithful p w s')
    (hg : s.snapshotGeneration = Receipt.generation w.receipt)
    (heq : s.snapshotGeneration = s'.snapshotGeneration) : SameContent p s s' := by
  have hs := h.current.2 hg
  have hs' := h'.current.2 (heq ▸ hg)
  rw [Stands] at hs hs'
  rw [hs, Option.some.injEq, Prod.mk.injEq] at hs'
  exact hs'

theorem Numbers.faithful (h : Consistent p w) (hs : Numbers p w e (w.step p cluster e) s) :
    Faithful p (w.step p cluster e) s := by
  cases hs with
  | before h0 hsm => exact (h.faithful _ h0).step.of_same hsm
  | given _ hc hsg hr heq =>
    have hsn := h.sound _ (call?_eq_some hc).1
    rw [hsg] at hsn
    rw [heq]
    refine faithful_numbered hr (Eq.trans ?_ hsn.2)
    cases w.receipt <;> rfl

theorem Consistent.step (h : Consistent p w) : Consistent p (w.step p cluster e) := by
  refine ⟨h.sound.step, fun s hs => (numbers_step hs).faithful h, fun s hs s' hs' heq => ?_⟩
  have hf := (numbers_step hs).faithful h
  have hf' := (numbers_step hs').faithful h
  cases numbers_step hs with
  | given _ _ _ hr hn =>
    refine hf.sameContent hf' ?_ heq
    rw [hr, hn]
    rfl
  | before h0 hsm =>
    cases numbers_step hs' with
    | given _ _ _ hr hn =>
      have hg : s'.snapshotGeneration = Receipt.generation (w.step p cluster e).receipt := by
        rw [hr, hn]
        rfl
      exact ((hf'.sameContent hf hg heq.symm)).imp Eq.symm Eq.symm
    | before h0' hsm' =>
      obtain ⟨hg, -, he⟩ := hsm.header_eq
      obtain ⟨hg', -, he'⟩ := hsm'.header_eq
      have ha := h.agree _ h0 _ h0' (by rw [← hg, ← hg', heq])
      rw [SameContent, hsm.content_eq, hsm'.content_eq, he, he']
      exact ha

/-! ## The order of the numbers -/

def Stage.unnumbered : Stage → List AssignmentRow
  | .advance b => b.rows
  | _ => []

def StillDesired (w : World) : Event → Prop
  | .query id _ _ => ∀ c ∈ w.call? id, ∀ row ∈ c.stage.unnumbered,
      ∃ now ∈ w.rows.rows, now.entry = row.entry
  | _ => True

def versions (rows : Deployments) : List Event → List Deployments
  | [] => [rows]
  | .change rows' _ :: es => rows :: versions rows' es
  | _ :: es => versions rows es

def Grows (t t' : Deployments) : Prop :=
  ∀ row ∈ t.rows, ∀ row' ∈ t'.rows, row.id = row'.id →
    row.desiredGeneration ≤ row'.desiredGeneration
deriving Decidable

instance StillDesired.decidable : ∀ e, Decidable (StillDesired w e)
  | .query id _ _ =>
    match h : w.call? id with
    | none => isTrue fun c hc => by rw [h] at hc; cases hc
    | some c => decidable_of_iff
      (∀ row ∈ c.stage.unnumbered, ∃ now ∈ w.rows.rows, now.entry = row.entry)
      (by simp [StillDesired, h])
  | .change _ _ | .call _ _ => isTrue trivial

theorem rows_step : (w.step p cluster e).rows = match e with
    | .change rows _ => rows
    | _ => w.rows := by
  cases e with
  | change rows system => rfl
  | call id request =>
    simp only [World.step]
    split <;> rfl
  | query id fault authorize =>
    simp only [World.step]
    split
    · rfl
    · cases fault with
      | lost | applied => rfl
      | none => exact resolve_keeps.2

variable {start : World} {es : List Event}

theorem versions_eq (p : Provider) (cluster : String) (start : World) (es : List Event) :
    ∃ before, versions start.rows es =
      before ++ [(run (World.step p cluster) start es).rows] := by
  induction es generalizing start with
  | nil => exact ⟨[], rfl⟩
  | cons e es ih =>
    obtain ⟨before, heq⟩ := ih (start.step p cluster e)
    rw [rows_step] at heq
    cases e with
    | change rows system => exact ⟨start.rows :: before, by rw [versions, heq]; rfl⟩
    | call id request | query id fault authorize => exact ⟨before, heq⟩

theorem versions_prefix {rows fs} :
    versions rows es <+: versions rows (es ++ fs) := by
  induction es generalizing rows with
  | nil =>
    -- whatever follows, the first version is the one at the start
    induction fs with
    | nil => exact prefix_rfl
    | cons e fs ih =>
      cases e with
      | change rows' system => exact ⟨_, rfl⟩
      | call id request | query id fault authorize => exact ih
  | cons e es ih =>
    cases e with
    | change rows' system => exact prefix_cons_inj _ |>.mpr ih
    | call id request | query id fault authorize => exact ih

theorem le_of_versions (hg : (versions start.rows es).Pairwise Grows) {t : Deployments}
    (ht : t ∈ versions start.rows es) {row row' : AssignmentRow} (hr : row ∈ t.rows)
    (hr' : row' ∈ (run (World.step p cluster) start es).rows.rows) (hid : row.id = row'.id) :
    row.desiredGeneration ≤ row'.desiredGeneration := by
  obtain ⟨before, heq⟩ := versions_eq p cluster start es
  rw [heq, mem_append, mem_singleton] at ht
  rw [heq, pairwise_append] at hg
  rcases ht with ht | rfl
  · exact hg.2.2 t ht _ mem_cons_self row hr row' hr' hid
  · have hs : row = row' := inj_on_of_nodup_map (Keyed.nodup _) hr hr' hid
    rw [hs]

structure InOrder (versions : List Deployments) (numbered : List Snapshot) : Prop where
  desired : ∀ s ∈ numbered, ∀ x ∈ entries s, ∃ t ∈ versions, ∃ row ∈ t.rows, x = row.entry
  ordered : ∀ s ∈ numbered, ∀ s' ∈ numbered, s.snapshotGeneration < s'.snapshotGeneration →
    ∀ x ∈ entries s, ∀ x' ∈ entries s', x.1 = x'.1 → x.2 ≤ x'.2

theorem entries_numbered : entries (b.numbered p r) = entries b.response := rfl

theorem Consistent.exists_row (h : Consistent p w) (hst : StillDesired w e) {fault x}
    (hev : e = .query id fault authorize) (hc : w.call? id = some c)
    (hsg : c.stage = .advance b) (hx : x ∈ entries b.response) :
    ∃ row ∈ w.rows.rows, x = row.entry := by
  have hs := h.sound _ (call?_eq_some hc).1
  rw [hsg] at hs
  obtain ⟨row, hr, rfl⟩ := hs.1 x hx
  rw [hev] at hst
  obtain ⟨now, hn, heq⟩ := hst c hc row (by rw [hsg]; exact hr)
  exact ⟨now, hn, heq.symm⟩

theorem InOrder.step (hg : (versions start.rows es).Pairwise Grows)
    (hcn : Consistent p (run (World.step p cluster) start es))
    (hst : StillDesired (run (World.step p cluster) start es) e)
    (h : InOrder (versions start.rows es) (run (World.step p cluster) start es).numbered) :
    InOrder (versions start.rows es)
      ((run (World.step p cluster) start es).step p cluster e).numbered := by
  obtain ⟨before, hv⟩ := versions_eq p cluster start es
  have hnw : (run (World.step p cluster) start es).rows ∈ versions start.rows es := by
    rw [hv]
    exact mem_append_right _ mem_cons_self
  refine ⟨fun s hs x hx => ?_, fun s hs s' hs' hlt x hx x' hx' hid => ?_⟩
  · cases numbers_step hs with
    | before h0 hsm => exact h.desired _ h0 x (hsm.entries_eq ▸ hx)
    | given hev hc hsg _ hn =>
      rw [hn, entries_numbered] at hx
      exact ⟨_, hnw, hcn.exists_row hst hev hc hsg hx⟩
  · cases numbers_step hs with
    | given _ _ _ hrc hn =>
      -- the newest number is the largest
      have hle := ((numbers_step hs').faithful hcn).current.1
      rw [hrc] at hle
      rw [hn] at hlt
      exact absurd hle (not_le.mpr hlt)
    | before h0 hsm =>
      rw [hsm.entries_eq] at hx
      cases numbers_step hs' with
      | before h0' hsm' =>
        rw [hsm'.entries_eq] at hx'
        refine h.ordered _ h0 _ h0' ?_ x hx x' hx' hid
        rw [← hsm.header_eq.1, ← hsm'.header_eq.1]
        exact hlt
      | given hev hc hsg _ hn =>
        rw [hn, entries_numbered] at hx'
        obtain ⟨t, ht, row, hr, rfl⟩ := h.desired _ h0 x hx
        obtain ⟨row', hr', rfl⟩ := hcn.exists_row hst hev hc hsg hx'
        exact le_of_versions hg ht hr hr' hid

theorem consistent_of_idle (hcl : start.calls = []) (hsr : start.served = []) :
    Consistent p start := by
  have hn : start.numbered = [] := by simp [World.numbered, hcl, hsr]
  exact ⟨by simp [World.Sound, hcl], by simp [hn], by simp [hn]⟩

theorem run_consistent (hc : start.calls = []) (hsr : start.served = []) :
    Consistent p (run (World.step p cluster) start es) :=
  run_preserves (fun _ _ h => h.step) (consistent_of_idle hc hsr)

theorem run_inOrder (hc : start.calls = []) (hsr : start.served = [])
    (hst : RunMeets (World.step p cluster) StillDesired start es)
    (hg : (versions start.rows es).Pairwise Grows) :
    InOrder (versions start.rows es) (run (World.step p cluster) start es).numbered := by
  have hrl := RunMeets.history (P := fun es => (versions start.rows es).Pairwise Grows →
      InOrder (versions start.rows es) (run (World.step p cluster) start es).numbered)
    (fun past e hp hok hg => ?_) hst (fun _ => ?_)
  · exact hrl hg
  · have hsb : versions start.rows past <+: versions start.rows (past ++ [e]) := versions_prefix
    have hps := hg.sublist hsb.sublist
    have hstep := (hp hps).step hps (run_consistent hc hsr) hok
    rw [run_snoc]
    exact ⟨fun s hs x hx => by
      obtain ⟨t, ht, hr⟩ := hstep.desired s hs x hx
      exact ⟨t, hsb.subset ht, hr⟩, hstep.ordered⟩
  · have hn : start.numbered = [] := by simp [World.numbered, hc, hsr]
    rw [run_nil, hn]
    exact ⟨fun s hs => (not_mem_nil hs).elim, fun s hs => (not_mem_nil hs).elim⟩

/-! ## The responses of a run -/

def CollisionFree (p : Provider) (served : List Snapshot) : Prop :=
  ∀ s ∈ served, ∀ s' ∈ served, p.digest (content s) = p.digest (content s') →
    content s = content s'
deriving Decidable

theorem mem_numbered_of_served (h : s ∈ w.served) (hf : s.fullSnapshot) : s ∈ w.numbered :=
  mem_append_right _ (mem_filter.mpr ⟨h, hf⟩)

/-- **The numbers of the snapshots served.** In every interleaving two full responses with one
number have one ETag. If moreover no receipt is advanced with rows whose generations have moved
on since they were read, the response with the larger number has no deployment at a smaller
generation. -/
theorem served_in_order (p : Provider) (cluster : String) (start : World) (es : List Event)
    (hcalls : start.calls = []) (hserved : start.served = [])
    (hdigest : CollisionFree p (run (World.step p cluster) start es).served) :
    (∀ s ∈ (run (World.step p cluster) start es).served,
      ∀ s' ∈ (run (World.step p cluster) start es).served,
        s.fullSnapshot → s'.fullSnapshot →
          s.snapshotGeneration = s'.snapshotGeneration → s.eTag = s'.eTag) ∧
      ((versions start.rows es).Pairwise Grows →
        RunMeets (World.step p cluster) StillDesired start es →
          ∀ s ∈ (run (World.step p cluster) start es).served,
            ∀ s' ∈ (run (World.step p cluster) start es).served,
              s.fullSnapshot → s'.fullSnapshot →
                s.snapshotGeneration < s'.snapshotGeneration →
                  ∀ x ∈ entries s, ∀ x' ∈ entries s', x.1 = x'.1 → x.2 ≤ x'.2) := by
  have hcn : Consistent p (run (World.step p cluster) start es) := run_consistent hcalls hserved
  refine ⟨fun s hs s' hs' hf hf' heq => ?_, fun hg hst s hs s' hs' hf hf' hlt => ?_⟩
  · have hmem := mem_numbered_of_served hs hf
    have hmem' := mem_numbered_of_served hs' hf'
    obtain ⟨hc, he⟩ := hcn.agree s hmem s' hmem' heq
    have hct := hdigest s hs s' hs' hc
    rw [(hcn.faithful s hmem).tagged, (hcn.faithful s' hmem').tagged]
    simp only [content, canonical, Canonical.mk.injEq] at hct ⊢
    simp only [hct, heq, he]
  · exact (run_inOrder hcalls hserved hst hg).ordered s (mem_numbered_of_served hs hf)
      s' (mem_numbered_of_served hs' hf') hlt

/-! ## Two builders

One deployment, whose desired generation goes from 1 to 2. -/

namespace TwoBuilders

def clusterID : String := "11111111-1111-4111-8111-111111111111"

def deploymentID : String := "22222222-2222-4222-8222-222222222222"

def projectID : String := "33333333-3333-4333-8333-333333333333"

def specDigest : String :=
  "sha256:aaaaaaaaaaaaaaaaaaaaaaaaaaaaaaaaaaaaaaaaaaaaaaaaaaaaaaaaaaaaaaaa"

def digest (c : Canonical) : String :=
  if c.assignments.any (·.generation = 2) then "two" else "one"

def parsers : Parsers where
  parseURL _ := some { scheme := "https", host := "git.test" }
  parseDuration _ := some (60 * 10 ^ 9)
  validRFC3339 _ := false
  cleanPath path := path
  decodeJSON _ := none
  validYAML _ := true
  encodedLen _ := 1000
  canonicalETag s := digest (canonical s)
  validSystem _ := true

def provider : Provider where
  parsers := parsers
  digest := digest
  etag_eq _ := rfl
  credentialDigest _ _ := "epochs"
  decodeRenderer _ := .ok
    { kind := .kustomize, kustomize := some { path := "app", targetNamespace := "team-a" } }
  validateRenderer _ := .ok ()
  decodeOverrides _ := .ok {}
  validateOverrides _ := .ok ()
  decodePolicy _ := .ok ⟨60, 60, 60, true, false, .detect⟩
  validatePolicy _ := .ok ()
  decodeTrust _ := .ok { allowUnsigned := true }
  validateTrust _ := .ok ()
  mergeHelmValues values _ := .ok values
  durationText _ := "1m0s"
  systemRelease text := .ok text
  decrypt := none
  decodeValues _ := .ok []
  validJSON _ := true
  validateInventory _ := .ok ()

def row (generation : Int) : AssignmentRow :=
  { id := deploymentID, targetID := projectID, clusterID := clusterID, projectID := projectID
    sourceID := projectID, action := .apply, desiredGeneration := generation
    desiredSpecDigest := specDigest, desiredOverrides := "", renderer := .kustomize
    rendererSpec := "", reconciliationPolicy := "", trustPolicy := "", scope := .namespaced
    sourceType := .git, url := "https://git.test/app"
    resolvedRevision := "0123456789012345678901234567890123456789", artifactDigest := ""
    authMode := .none, credentialEpoch := 1 }

def desired (generation : Int) : Deployments := ⟨[row generation], by simp⟩

def fresh : World := { rows := desired 1 }

def update : Event := .change (desired 2) none

def call (id : Nat) : Event := .call id { clusterID := clusterID, protocolVersion := "2.0" }

def ask (id : Nat) : Event := .query id .none fun _ _ => .ok false

def oneByOne : List Event :=
  [call 1, ask 1, ask 1, ask 1, ask 1, update, call 2, ask 2, ask 2, ask 2, ask 2]

def overtaken : List Event :=
  [call 1, ask 1, update, call 2, ask 2, ask 2, ask 2, ask 2, ask 1, ask 1, ask 1]

def numbers (w : World) : List (Int × List (String × Int)) :=
  w.served.map fun s => (s.snapshotGeneration, entries s)

end TwoBuilders

open TwoBuilders in
/-- One after the other, the larger number has the larger generation. -/
theorem oneByOne_in_order : numbers (run (World.step provider clusterID) fresh oneByOne) =
        [(1, [(deploymentID, 1)]), (2, [(deploymentID, 2)])] ∧
      ∀ s ∈ (run (World.step provider clusterID) fresh oneByOne).served,
        ∀ s' ∈ (run (World.step provider clusterID) fresh oneByOne).served,
          s.fullSnapshot → s'.fullSnapshot →
            s.snapshotGeneration < s'.snapshotGeneration →
              ∀ x ∈ entries s, ∀ x' ∈ entries s', x.1 = x'.1 → x.2 ≤ x'.2 := by
  refine ⟨by decide +kernel, (served_in_order provider clusterID fresh oneByOne rfl rfl ?_).2
    (by decide) (by decide +kernel)⟩
  decide +kernel

open TwoBuilders in
/-- Overtaken between reading its rows and advancing the receipt, a call numbers what it has
read after what the other has: snapshot 2 has the deployment at generation 1, snapshot 1 at
generation 2. -/
theorem overtaken_out_of_order : (versions fresh.rows overtaken).Pairwise Grows ∧
      ∃ s ∈ (run (World.step provider clusterID) fresh overtaken).served,
        ∃ s' ∈ (run (World.step provider clusterID) fresh overtaken).served,
          s.fullSnapshot ∧ s'.fullSnapshot ∧
            s.snapshotGeneration < s'.snapshotGeneration ∧
              ∃ x ∈ entries s, ∃ x' ∈ entries s', x.1 = x'.1 ∧ x'.2 < x.2 := by
  obtain ⟨hn, hf⟩ : numbers (run (World.step provider clusterID) fresh overtaken) =
        [(1, [(deploymentID, 2)]), (2, [(deploymentID, 1)])] ∧
      ∀ s ∈ (run (World.step provider clusterID) fresh overtaken).served, s.fullSnapshot := by
    decide +kernel
  refine ⟨by decide, ?_⟩
  -- the two responses, read back from their numbers
  simp only [numbers, map_eq_cons_iff, map_eq_nil_iff, Prod.mk.injEq] at hn
  obtain ⟨s, _, hsr, ⟨hg, he⟩, s', _, rfl, ⟨hg', he'⟩, rfl⟩ := hn
  rw [hsr] at hf ⊢
  refine ⟨s, by simp, s', by simp, hf s (by simp), hf s' (by simp), ?_, ?_⟩
  · rw [hg, hg']
    decide
  · rw [he, he']
    exact ⟨_, mem_cons_self, _, mem_cons_self, rfl, by decide⟩

end Astronomer.DeliveryProvider
