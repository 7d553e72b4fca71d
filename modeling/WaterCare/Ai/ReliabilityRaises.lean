import WaterCare.Ai.Reliability

/-!
What a run of the reliability runtime passes on: an exception of the agents downstream, one of a
retry that is neither a stage timeout nor a failure of the search tool, and what a rule refuses.
-/

namespace WaterCare.Ai.Reliability
open Store Analysis Machine Py Harness

/-! ### Who raises -/

/-- Who raises: an agent downstream, the search with its filters, another call of a retry, or a rule
that is looked at without a call. -/
inductive Source
  | agent
  | search
  | stage
  | rule
  deriving DecidableEq, Repr

/-- Whether `run` passes on what a source raises. -/
def Source.passes : Source → Failure → Bool
  | .search, .stageTimeout _ | .search, .toolError _ _ | .stage, .stageTimeout _ => false
  | _, _ => true

/-- An exception after a number of calls: the last of them raised it, or a rule refused the
context. -/
inductive Raised (u : Unicode) (config : SafetyRules) (o : Outside) : Nat → Source → Failure → Prop
  | agent {n : Nat} {failure : Failure} (raised : o.agent n = some failure) :
      Raised u config o (n + 1) .agent failure
  | search {n : Nat} {failure : Failure} (raised : o.search n = .error failure) :
      Raised u config o (n + 1) .search failure
  | select {n : Nat} {chunks : List RetrievedChunk} {failure : Failure}
      (raised : (o.select n chunks).references = .error failure) :
      Raised u config o (n + 1) .search failure
  | token {n : Nat} {failure : Failure} (raised : o.token n = some failure) :
      Raised u config o (n + 1) .stage failure
  | write {n : Nat} {failure : Failure} (raised : (o.write n).result = .error failure) :
      Raised u config o (n + 1) .stage failure
  | validate {n : Nat} {failure : Failure} (raised : o.validate n = some failure) :
      Raised u config o (n + 1) .stage failure
  | query {n : Nat} (empty : o.queryText = "") : Raised u config o n .rule (.raised false)
  | guidance {n : Nat} {ctx : Context} {hasEvidence : Bool}
      (refused : ∀ result, ctx.safetyAssessment.map (assessmentAndGuidance config · hasEvidence) ≠
        some (.ok result)) : Raised u config o n .rule (.raised false)
  | verification {n : Nat} {request : Request} {state : RetryState} {fault : RuleFault}
      (refused : Harness.run u config request state = .error fault) :
      Raised u config o n .rule (.raised false)

/-- Whatever a step raises, a property holds of it and of the number of calls by then. -/
def Step.Raises {α : Type} (step : Step α) (P : Nat → Failure → Prop) : Prop :=
  ∀ s failure t, step s = (.error failure, t) → P t.calls failure

section Combinators
variable {α β : Type} {first : Step α} {next : α → Step β} {P Q : Nat → Failure → Prop}

theorem Step.andThen_error {failure : Failure} {s t : State}
    (ended : first.andThen next s = (.error failure, t)) :
    first s = (.error failure, t) ∨
      ∃ a s', first s = (.ok a, s') ∧ next a s' = (.error failure, t) := by
  unfold Step.andThen at ended
  split at ended
  · next other s' failed =>
      have ⟨same, state⟩ := Prod.mk.inj ended
      refine .inl (failed.trans (Prod.ext ?_ state))
      exact congrArg Except.error (Except.error.inj same)
  · next a s' went => exact .inr ⟨a, s', went, ended⟩

theorem Step.Raises.andThen (h : first.Raises P) (h' : ∀ a, (next a).Raises P) :
    (first.andThen next).Raises P := by
  intro s failure t ended
  cases Step.andThen_error ended with
  | inl failed => exact h s failure t failed
  | inr went =>
      have ⟨a, s', _, failed⟩ := went
      exact h' a s' failure t failed

theorem Step.Raises.mono (h : first.Raises P) (implied : ∀ n failure, P n failure → Q n failure) :
    first.Raises Q := fun s failure t ended => implied _ _ (h s failure t ended)

end Combinators

section Stages
variable (u : Unicode) (config : SafetyRules) (o : Outside) (a : Args)

end Stages

/-! ### What a run passes on -/

section Route
variable {u : Unicode} {config : SafetyRules} {o : Outside} {a : Args}

end Route

end WaterCare.Ai.Reliability
