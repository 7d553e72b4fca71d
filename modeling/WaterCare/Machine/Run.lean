import Mathlib.Logic.Relation

/-!
Runs of a labelled transition relation and the rules for invariants over them.
A restricted relation carries a condition on every step, so that a statement
about the runs whose steps all meet it is a statement about its runs.
-/

namespace Machine
variable {σ τ ε δ : Type*}

/-- A finite run, with its labels in order. -/
inductive Run (step : σ → ε → σ → Prop) (start : σ) : List ε → σ → Prop
  | refl : Run step start [] start
  | snoc {labels : List ε} {s t : σ} {e : ε} :
      Run step start labels s → step s e t → Run step start (labels ++ [e]) t

/-- The steps that meet a condition on the state before them and their label. -/
def Restrict (ok : σ → ε → Prop) (step : σ → ε → σ → Prop) : σ → ε → σ → Prop :=
  fun s e t => ok s e ∧ step s e t

namespace Run
variable {step step' : σ → ε → σ → Prop} {start s t : σ} {labels : List ε}

theorem mono (sub : ∀ s e t, step s e t → step' s e t) (run : Run step start labels s) :
    Run step' start labels s := by
  induction run with
  | refl => exact .refl
  | snoc _ last ih => exact .snoc ih (sub _ _ _ last)

theorem of_restrict {ok : σ → ε → Prop} (run : Run (Restrict ok step) start labels s) :
    Run step start labels s :=
  run.mono fun _ _ _ h => h.2

theorem trans {more : List ε} (first : Run step start labels s) (second : Run step s more t) :
    Run step start (labels ++ more) t := by
  induction second with
  | refl => rwa [List.append_nil]
  | snoc _ last ih => rw [← List.append_assoc]; exact .snoc ih last

/-- What holds at the start and is kept by every step holds at the end of every run. -/
theorem invariant {P : σ → Prop} (keep : ∀ s e t, P s → step s e t → P t)
    (run : Run step start labels s) (base : P start) : P s := by
  induction run with
  | refl => exact base
  | snoc _ last ih => exact keep _ _ _ ih last

/-- A run that is computed, label by label. -/
theorem foldlM {perform : σ → ε → Option σ} {more : List ε}
    (sound : ∀ s e t, perform s e = some t → step s e t) (run : Run step start labels s)
    (performed : more.foldlM perform s = some t) : Run step start (labels ++ more) t := by
  induction more generalizing s labels with
  | nil =>
      cases Option.some.inj performed
      rwa [List.append_nil]
  | cons e rest ih =>
      rw [List.foldlM_cons] at performed
      obtain ⟨next, first, others⟩ := Option.bind_eq_some_iff.1 performed
      have further := ih (run.snoc (sound _ _ _ first)) others
      rwa [List.append_assoc] at further

end Run

/-- A run has come by a step with the property, which may speak of the labels after it;
those are the labels of a run from the step on. -/
def Passes (step : σ → ε → σ → Prop) (start : σ) (labels : List ε) (last : σ)
    (P : σ → ε → σ → List ε → Prop) : Prop :=
  ∃ before e after s t, labels = before ++ e :: after ∧ Run step start before s ∧ step s e t ∧
    Run step t after last ∧ P s e t after

namespace Passes
variable {step : σ → ε → σ → Prop} {start s t : σ} {labels : List ε} {e : ε}
  {P Q : σ → ε → σ → List ε → Prop}

/-- The last step of a run has the property. -/
theorem here (run : Run step start labels s) (last : step s e t) (h : P s e t []) :
    Passes step start (labels ++ [e]) t P :=
  ⟨labels, e, [], s, t, rfl, run, last, .refl, h⟩

/-- A step before the last one has the property, if the last one does not spoil it. -/
theorem later (passes : Passes step start labels s P) (last : step s e t)
    (keep : ∀ {r r' : σ} {d : ε} {after : List ε}, Run step r' after s → P r d r' after →
      Q r d r' (after ++ [e])) : Passes step start (labels ++ [e]) t Q := by
  obtain ⟨before, d, after, r, r', rfl, run, there, rest, h⟩ := passes
  refine ⟨before, d, after ++ [e], r, r', ?_, run, there, .snoc rest last, keep rest h⟩
  rw [List.append_assoc, List.cons_append]

theorem mono (passes : Passes step start labels t P)
    (keep : ∀ {r r' : σ} {d : ε} {after : List ε}, step r d r' → P r d r' after →
      Q r d r' after) : Passes step start labels t Q := by
  obtain ⟨before, d, after, r, r', same, run, there, rest, h⟩ := passes
  exact ⟨before, d, after, r, r', same, run, there, rest, keep there h⟩

end Passes
end Machine
