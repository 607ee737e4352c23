import Mathlib.Data.List.Nodup
import Astronomer.Agent.Protocol

/-!
# Names of the objects of a deployment

The naming contract shared by control plane and agent: every object of a
deployment is named after the deployment's own UUID with its hyphens taken out.
Canonical UUIDs have their hyphens in fixed places, so no two deployments share a
name.
-/

namespace Astronomer.Agent

open List

def hexOf (id : String) : String := String.ofList (id.toList.filter (· != '-'))

structure ObjectNames where
  (controlNamespace base source authSecret trustSecret applier : String)

def projectHash (projectID : String) : String := String.ofList ((hexOf projectID).toList.take 12)

def names (projectID deploymentID : String) : ObjectNames :=
  let base := "d-" ++ hexOf deploymentID
  { controlNamespace := "astronomer-delivery-p-" ++ projectHash projectID
    base := base
    source := base ++ "-source"
    authSecret := base ++ "-source-auth"
    trustSecret := base ++ "-trust"
    applier := base ++ "-applier" }

def ObjectNames.ofDeployment (n : ObjectNames) : List String :=
  [n.applier, n.authSecret, n.trustSecret, n.source, n.base]

variable {d d' project project' name : String}

/-! ## Canonical UUIDs -/

theorem hexRun_iff {n} {cs : List Char} :
    hexRun n cs ↔ cs.length = n ∧ ∀ c ∈ cs, isHexChar c := by
  simp [hexRun]

theorem filter_hyphen_of_hexRun {n} {cs : List Char} (h : hexRun n cs) :
    cs.filter (· != '-') = cs := by
  rw [filter_eq_self]
  intro c hc
  have hh := (hexRun_iff.mp h).2 c hc
  rw [bne_iff_ne]
  rintro rfl
  revert hh
  decide

theorem exists_groups (h : validUUID d) :
    ∃ g1 g2 g3 g4 g5, d.toList = g1 ++ '-' :: (g2 ++ '-' :: (g3 ++ '-' :: (g4 ++ '-' :: g5))) ∧
      (hexOf d).toList = g1 ++ (g2 ++ (g3 ++ (g4 ++ g5))) ∧
      g1.length = 8 ∧ g2.length = 4 ∧ g3.length = 4 ∧ g4.length = 4 ∧ g5.length = 12 := by
  simp only [validUUID, Bool.and_eq_true, beq_iff_eq] at h
  obtain ⟨⟨⟨⟨⟨⟨⟨⟨⟨⟨h1, hy1⟩, h2⟩, hy2⟩, h3⟩, hy3⟩, h4⟩, hy4⟩, h5⟩, -⟩, -⟩ := h
  -- a group is `take`n, then its hyphen, then what is left after both is `drop`ped
  have hyp (n m : Nat) (hy : (d.toList.drop n).take 1 = ['-']) (hm : m = n + 1) :
      d.toList.drop n = '-' :: d.toList.drop m := by
    conv_lhs => rw [← take_append_drop 1 (d.toList.drop n), hy, drop_drop]
    rw [hm]
    rfl
  have group (n k m : Nat) (hm : m = n + k) :
      d.toList.drop n = (d.toList.drop n).take k ++ d.toList.drop m := by
    conv_lhs => rw [← take_append_drop k (d.toList.drop n), drop_drop]
    rw [hm]
  have heq : d.toList = d.toList.take 8 ++ '-' :: ((d.toList.drop 9).take 4 ++ '-' ::
      ((d.toList.drop 14).take 4 ++ '-' :: ((d.toList.drop 19).take 4 ++ '-' ::
        d.toList.drop 24))) := by
    rw [← hyp 23 24 hy4 rfl, ← group 19 4 23 rfl, ← hyp 18 19 hy3 rfl, ← group 14 4 18 rfl,
      ← hyp 13 14 hy2 rfl, ← group 9 4 13 rfl, ← hyp 8 9 hy1 rfl, take_append_drop]
  refine ⟨_, _, _, _, _, heq, ?_, (hexRun_iff.mp h1).1, (hexRun_iff.mp h2).1,
    (hexRun_iff.mp h3).1, (hexRun_iff.mp h4).1, (hexRun_iff.mp h5).1⟩
  rw [hexOf, String.toList_ofList]
  conv_lhs => rw [heq]
  simp only [filter_append, filter_cons, filter_hyphen_of_hexRun h1,
    filter_hyphen_of_hexRun h2, filter_hyphen_of_hexRun h3, filter_hyphen_of_hexRun h4,
    filter_hyphen_of_hexRun h5, bne_self_eq_false, Bool.false_eq_true, if_false]

theorem length_hexOf (h : validUUID d) : (hexOf d).toList.length = 32 := by
  obtain ⟨g1, g2, g3, g4, g5, -, heq, h1, h2, h3, h4, h5⟩ := exists_groups h
  simp only [heq, length_append]
  omega

theorem hexOf_injective (h : validUUID d) (h' : validUUID d')
    (heq : hexOf d = hexOf d') : d = d' := by
  obtain ⟨g1, g2, g3, g4, g5, hd, hh, h1, h2, h3, h4, -⟩ := exists_groups h
  obtain ⟨g1', g2', g3', g4', g5', hd', hh', h1', h2', h3', h4', -⟩ := exists_groups h'
  have hc : g1 ++ (g2 ++ (g3 ++ (g4 ++ g5))) = g1' ++ (g2' ++ (g3' ++ (g4' ++ g5'))) := by
    rw [← hh, ← hh', heq]
  obtain ⟨e1, hc⟩ := append_inj hc (h1.trans h1'.symm)
  obtain ⟨e2, hc⟩ := append_inj hc (h2.trans h2'.symm)
  obtain ⟨e3, hc⟩ := append_inj hc (h3.trans h3'.symm)
  obtain ⟨e4, e5⟩ := append_inj hc (h4.trans h4'.symm)
  exact String.toList_injective (by rw [hd, hd', e1, e2, e3, e4, e5])

/-! ## No two deployments share a name -/

def nameEndings : List String := ["-applier", "-source-auth", "-trust", "-source", ""]

theorem ofDeployment_eq :
    (names project d).ofDeployment = nameEndings.map (("d-" ++ hexOf d) ++ ·) := by
  unfold nameEndings
  rw [map_cons, map_cons, map_cons, map_cons, map_cons, map_nil,
    String.append_empty]
  rfl

theorem toList_name {start ending : String} : ((start ++ hexOf d) ++ ending).toList =
      start.toList ++ ((hexOf d).toList ++ ending.toList) := by
  rw [String.toList_append, String.toList_append, append_assoc]

theorem eq_of_mem_names (h : validUUID d) (h' : validUUID d')
    (hn : name ∈ (names project d).ofDeployment) (hn' : name ∈ (names project' d').ofDeployment) :
    d = d' := by
  rw [ofDeployment_eq, mem_map] at hn hn'
  obtain ⟨ending, -, rfl⟩ := hn
  obtain ⟨ending', -, heq⟩ := hn'
  have hl := congrArg String.toList heq
  rw [toList_name, toList_name] at hl
  have hlen : (hexOf d').toList.length = (hexOf d).toList.length :=
    (length_hexOf h').trans (length_hexOf h).symm
  have hh := (append_inj (append_cancel_left hl) hlen).1
  exact (hexOf_injective h' h (String.toList_injective hh)).symm

theorem nodup_ofDeployment : (names project d).ofDeployment.Nodup := by
  rw [ofDeployment_eq]
  refine List.Nodup.map (fun s s' heq => ?_) (by decide)
  have hl := congrArg String.toList heq
  rw [toList_name, toList_name] at hl
  exact String.toList_injective (append_cancel_left (append_cancel_left hl))

end Astronomer.Agent
