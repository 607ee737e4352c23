import Mathlib.Data.List.Induction

/-!
# Runs of a total step function

An event that is refused leaves the state as it was, so a step is total, and a run is a list
of events, oldest first. Conditions on a run are conditions on each event in the state it
meets (`RunMeets`).
-/

namespace Astronomer

open List

variable {σ ε : Type*} {step : σ → ε → σ} {s : σ} {e : ε} {es fs : List ε}

def run (step : σ → ε → σ) (s : σ) (es : List ε) : σ := es.foldl step s

@[simp] theorem run_nil : run step s [] = s := rfl

@[simp] theorem run_cons : run step s (e :: es) = run step (step s e) es := rfl

theorem run_append : run step s (es ++ fs) = run step (run step s es) fs := foldl_append

theorem run_snoc : run step s (es ++ [e]) = step (run step s es) e := by
  rw [run_append]
  rfl

def RunMeets (step : σ → ε → σ) (ok : σ → ε → Prop) : σ → List ε → Prop
  | _, [] => True
  | s, e :: es => ok s e ∧ RunMeets step ok (step s e) es

instance RunMeets.decidable (ok : σ → ε → Prop) [∀ s e, Decidable (ok s e)] :
    ∀ s es, Decidable (RunMeets step ok s es)
  | _, [] => inferInstanceAs (Decidable True)
  | s, e :: es =>
    have : Decidable (RunMeets step ok (step s e) es) := RunMeets.decidable ok (step s e) es
    inferInstanceAs (Decidable (ok s e ∧ RunMeets step ok (step s e) es))

theorem RunMeets.of_forall {q : ε → Prop} (hq : ∀ e ∈ es, q e) :
    RunMeets step (fun _ e => q e) s es := by
  induction es generalizing s with
  | nil => trivial
  | cons e es ih => exact ⟨hq e mem_cons_self, ih fun e' he' => hq e' (mem_cons_of_mem _ he')⟩

theorem RunMeets.and_mem {ok : σ → ε → Prop} {q : ε → Prop} (h : RunMeets step ok s es)
    (hq : ∀ e ∈ es, q e) : RunMeets step (fun s e => q e ∧ ok s e) s es := by
  induction es generalizing s with
  | nil => trivial
  | cons e es ih =>
    exact ⟨⟨hq e mem_cons_self, h.1⟩, ih h.2 fun e' he' => hq e' (mem_cons_of_mem _ he')⟩

theorem RunMeets.and {ok ok' : σ → ε → Prop} (h : RunMeets step ok s es)
    (h' : RunMeets step ok' s es) : RunMeets step (fun s e => ok s e ∧ ok' s e) s es := by
  induction es generalizing s with
  | nil => trivial
  | cons e es ih => exact ⟨⟨h.1, h'.1⟩, ih h.2 h'.2⟩

theorem runMeets_append {ok : σ → ε → Prop} :
    RunMeets step ok s (es ++ fs) ↔
      RunMeets step ok s es ∧ RunMeets step ok (run step s es) fs := by
  induction es generalizing s with
  | nil => simp [RunMeets]
  | cons e es ih => rw [cons_append, RunMeets, RunMeets, ih, run_cons, and_assoc]

theorem run_preserves {P : σ → Prop} (hstep : ∀ s e, P s → P (step s e)) (h0 : P s) :
    P (run step s es) := by
  induction es generalizing s with
  | nil => exact h0
  | cons e es ih => exact ih (hstep s e h0)

theorem RunMeets.preserves {P : σ → Prop} {ok : σ → ε → Prop}
    (hstep : ∀ s e, P s → ok s e → P (step s e)) (hm : RunMeets step ok s es) (h0 : P s) :
    P (run step s es) := by
  induction es generalizing s with
  | nil => exact h0
  | cons e es ih => exact ih hm.2 (hstep s e h0 hm.1)

theorem RunMeets.history {P : List ε → Prop} {ok : σ → ε → Prop}
    (hstep : ∀ past e, P past → ok (run step s past) e → P (past ++ [e]))
    (hm : RunMeets step ok s es) (h0 : P []) : P es := by
  induction es using List.reverseRecOn with
  | nil => exact h0
  | append_singleton past e ih =>
    obtain ⟨hp, he, -⟩ := runMeets_append.mp hm
    exact hstep past e (ih hp) he

theorem RunMeets.of_invariant {P : σ → Prop} {ok ok' : σ → ε → Prop}
    (hstep : ∀ s e, P s → ok s e → P (step s e))
    (hok : ∀ s e, P s → ok s e → ok' s e)
    (hm : RunMeets step ok s es) (h0 : P s) : RunMeets step ok' s es := by
  induction es generalizing s with
  | nil => trivial
  | cons e es ih => exact ⟨hok s e h0 hm.1, ih hm.2 (hstep s e h0 hm.1)⟩

end Astronomer
