import WaterCare.Ai.ClarificationRounds
import WaterCare.Ai.EvidenceVerdict

/-!
The evidence of a whole run, over every attempt of the search: what reaches the guidance and the
customer was forwarded by the guard in the last attempt, whatever the service behind it answers.
-/

namespace WaterCare.Ai.Reliability
open Store Analysis Machine Py Harness

/-! ### Steps that preserve a property -/

/-- However a step ends, the property holds after it as before. -/
def Step.Preserves {α : Type} (P : State → Prop) (step : Step α) : Prop :=
  ∀ s, P s → P (step s).2

/-- A step that ends well turns one property into another. -/
def Step.Ensures {α : Type} (P : State → Prop) (step : Step α) (Q : α → State → Prop) : Prop :=
  ∀ s t a, P s → step s = (.ok a, t) → Q a t

section Preserves
variable {α β γ : Type} {P P' : State → Prop} {first : Step α} {next : α → Step β} {s t : State}

theorem Step.Preserves.andThen (h : first.Preserves P) (h' : ∀ a, (next a).Preserves P) :
    (first.andThen next).Preserves P := by
  intro s before
  have kept := h s before
  unfold Step.andThen
  split
  · next failure t ended =>
      rw [ended] at kept
      exact kept
  · next a t ended =>
      rw [ended] at kept
      exact h' a t kept

theorem Step.Keeps.preserves {f : State → γ} {step : Step α} (keeps : step.Keeps f)
    (reads : ∀ s t, f s = f t → P t → P s) : step.Preserves P :=
  fun s before => reads _ s (keeps s) before

theorem Step.Ensures.andThen {Q : α → State → Prop} {R : β → State → Prop}
    (h : Step.Ensures P first Q) (h' : ∀ a, Step.Ensures (Q a) (next a) R) :
    Step.Ensures P (first.andThen next) R := by
  intro s t b before ran
  have ⟨a, s', started, ended⟩ := Step.andThen_eq_ok.1 ran
  exact h' a s' t b (h s s' a before started) ended

theorem Step.Preserves.ensures {step : Step α} (h : step.Preserves P) :
    Step.Ensures P step fun _ t => P t := by
  intro s t a before ran
  have kept := h s before
  rw [ran] at kept
  exact kept

end Preserves

/-! ### What the guard lets through -/

section Gate
variable {u : Unicode} {config : SafetyRules} {o : Outside} {a : Args} {s t : State}

/-- The service behind the guard returned a chunk, and the guard let it through. -/
def Delegated (u : Unicode) (o : Outside) (product : ProductContext) (chunk : RetrievedChunk) :
    Prop :=
  (∃ n chunks, o.search n = .ok chunks ∧ chunk ∈ chunks) ∧ forwards u product chunk = true

/-- The capture of an attempt holds what the guard let through, and what it did not. -/
structure Screened (u : Unicode) (o : Outside) (product : ProductContext) (s : State) : Prop where
  forwarded : ∀ chunk ∈ s.capture.forwarded, Delegated u o product chunk
  rejected : ∀ chunk ∈ s.capture.rejected, forwards u product chunk = false

/-- The references of a state are those of chunks that were forwarded in the last attempt. -/
structure Gated (u : Unicode) (o : Outside) (product : ProductContext) (s : State) : Prop where
  screened : Screened u o product s
  references : ∀ id ∈ s.ctx.evidenceReferences,
    ∃ chunk ∈ s.capture.forwarded, chunk.chunkId = id

/-- The filters of the retrieval stage add nothing to the chunks of a search. -/
def Selects (o : Outside) : Prop :=
  ∀ n chunks references, (o.select n chunks).references = .ok references →
    ∀ id ∈ references, ∃ chunk ∈ chunks, chunk.chunkId = id

/-- What the gate is about. -/
def evidence (s : State) := (s.ctx.evidenceReferences, s.capture)

theorem screened_congr {product : ProductContext} (same : s.capture = t.capture)
    (screened : Screened u o product t) : Screened u o product s := by
  refine ⟨?_, ?_⟩
  · rw [same]
    exact screened.forwarded
  · rw [same]
    exact screened.rejected

theorem gated_congr {product : ProductContext} (same : evidence s = evidence t)
    (gated : Gated u o product t) : Gated u o product s := by
  have ⟨references, capture⟩ := Prod.mk.inj same
  refine ⟨screened_congr capture gated.screened, ?_⟩
  rw [references, capture]
  exact gated.references

/-- Without references there is nothing to show. -/
theorem gated_nil {product : ProductContext} (screened : Screened u o product s)
    (none : s.ctx.evidenceReferences = []) : Gated u o product s := by
  refine ⟨screened, ?_⟩
  rw [none]
  exact fun _ member => absurd member List.not_mem_nil

theorem screened_start (ctx : Context) (product : ProductContext) :
    Screened u o product (.start ctx ⟨[], [], []⟩) :=
  ⟨fun _ member => absurd member List.not_mem_nil, fun _ member => absurd member List.not_mem_nil⟩

theorem ignoresGuidance_evidence : IgnoresGuidance evidence :=
  ⟨fun _ _ => rfl, fun _ _ => rfl, fun _ _ => rfl, fun _ _ => rfl, fun _ _ => rfl, fun _ => rfl⟩

theorem gated_of_keeps {α : Type} {step : Step α} (keeps : step.Keeps evidence) :
    step.Preserves (Gated u o a.product) :=
  keeps.preserves fun _ _ => gated_congr

theorem screened_of_keeps {α : Type} {step : Step α} (keeps : step.Keeps fun s => s.capture) :
    step.Preserves (Screened u o a.product) :=
  keeps.preserves fun _ _ => screened_congr

theorem guardedSearch_screened : (guardedSearch u o a).Preserves (Screened u o a.product) := by
  intro s screened
  unfold guardedSearch
  split
  · exact screened
  · unfold call
    dsimp only
    cases found : o.search s.calls with
    | error failure => exact screened_congr (t := s) rfl screened
    | ok chunks =>
        simp only [List.partition_eq_filter_filter]
        refine ⟨fun chunk member => ?_, fun chunk member => ?_⟩
        · cases List.mem_append.1 member with
          | inl before => exact screened.forwarded chunk before
          | inr new =>
              have ⟨listed, passed⟩ := List.mem_filter.1 new
              exact ⟨⟨s.calls, chunks, found, listed⟩, passed⟩
        · cases List.mem_append.1 member with
          | inl before => exact screened.rejected chunk before
          | inr new =>
              have ⟨_, refused⟩ := List.mem_filter.1 new
              exact Bool.eq_false_iff.2 fun passed => by
                unfold forwards at passed
                simp [passed] at refused

theorem guardedSearch_listed {chunks : List RetrievedChunk}
    (ran : guardedSearch u o a s = (.ok chunks, t)) :
    ∀ chunk ∈ chunks, chunk ∈ t.capture.forwarded := by
  unfold guardedSearch at ran
  split at ran
  · have none := Except.ok.inj (Prod.mk.inj ran).1
    rw [← none]
    exact fun _ member => absurd member List.not_mem_nil
  · unfold call at ran
    dsimp only at ran
    cases found : o.search s.calls with
    | error failure =>
        rw [found] at ran
        cases (Prod.mk.inj ran).1
    | ok all =>
        rw [found] at ran
        have ⟨same, state⟩ := Prod.mk.inj ran
        rw [← state, ← Except.ok.inj same]
        exact fun chunk member => List.mem_append_right _ member

/-- What one attempt ends with comes from the chunks that were forwarded. -/
theorem attempt_gated (selects : Selects o) :
    Step.Ensures (Screened u o a.product) (attempt u o a .guarded) fun references t =>
      Screened u o a.product t ∧
        ∀ id ∈ references, ∃ chunk ∈ t.capture.forwarded, chunk.chunkId = id := by
  intro s t references screened ran
  have ⟨_, s₁, token, ran⟩ := Step.andThen_eq_ok.1 ran
  have ⟨chunks, s₂, searched, selected⟩ := Step.andThen_eq_ok.1 ran
  have ⟨found, last⟩ := Prod.mk.inj selected
  have started : Screened u o a.product s₁ := by
    rw [callUnit_eq_ok token]
    exact screened_congr (t := s) rfl screened
  have searched : guardedSearch u o a s₁ = (.ok chunks, s₂) := searched
  have kept := guardedSearch_screened s₁ started
  rw [searched] at kept
  have listed := guardedSearch_listed searched
  rw [← last]
  refine ⟨screened_congr (t := s₂) rfl kept, fun id member => ?_⟩
  have ⟨chunk, inside, same⟩ := selects s₂.calls chunks references found id member
  exact ⟨chunk, listed chunk inside, same⟩

theorem attempt_screened : (attempt u o a .guarded).Preserves (Screened u o a.product) :=
  Step.Preserves.andThen (screened_of_keeps (keeps_call (fun _ => rfl) _)) fun _ =>
    Step.Preserves.andThen guardedSearch_screened fun chunks =>
      fun s => by
        have ⟨applicability, reasons, filtered⟩ := filterEvidence_state o chunks s
        rw [filtered]
        exact screened_congr (t := s) rfl

theorem attempts_screened (n : Nat) :
    (attempts u o a .guarded n).Preserves (Screened u o a.product) := by
  induction n with
  | zero => exact attempt_screened
  | succ n ih =>
      intro s screened
      have first := attempt_screened s screened
      simp only [attempts]
      split
      · next t ended =>
          rw [ended] at first
          have again : ((callUnit o.token).andThen fun _ =>
              (updateContext fun ctx => { ctx with retryCount := max ctx.retryCount 1 }).andThen
                fun _ => attempts u o a .guarded n).Preserves (Screened u o a.product) :=
            Step.Preserves.andThen (screened_of_keeps (keeps_call (fun _ => rfl) _)) fun _ =>
              Step.Preserves.andThen (screened_of_keeps (keeps_updateContext fun _ => rfl))
                fun _ => ih
          exact again t first
      · exact first

theorem attempts_gated (selects : Selects o) (n : Nat) :
    Step.Ensures (Screened u o a.product) (attempts u o a .guarded n) fun references t =>
      Screened u o a.product t ∧
        ∀ id ∈ references, ∃ chunk ∈ t.capture.forwarded, chunk.chunkId = id := by
  induction n with
  | zero => exact attempt_gated selects
  | succ n ih =>
      intro s t references screened ran
      have first := attempt_screened s screened
      simp only [attempts] at ran
      split at ran
      · next s₁ ended =>
          rw [ended] at first
          obtain ⟨_, s₂, token, ran⟩ := Step.andThen_eq_ok.1 ran
          obtain ⟨_, s₃, updated, ran⟩ := Step.andThen_eq_ok.1 ran
          refine ih s₃ t references ?_ ran
          rw [← (Prod.mk.inj updated).2, callUnit_eq_ok token]
          exact screened_congr (t := s₁) rfl first
      · exact attempt_gated selects s t references screened ran

/-- The retrieval leaves the references of its last attempt. -/
theorem retrievalStage_gated (selects : Selects o) (guarded : a.service ≠ some .direct) :
    Step.Ensures (Screened u o a.product) (retrievalStage u o a) fun _ t =>
      Gated u o a.product t := by
  intro s t x screened ran
  unfold retrievalStage at ran
  split at ran
  · cases (Prod.mk.inj ran).1
  · next service found =>
      cases service with
      | direct => exact absurd found guarded
      | guarded =>
          split at ran
          · cases (Prod.mk.inj ran).1
          · have ⟨references, s₁, searched, updated⟩ := Step.andThen_eq_ok.1 ran
            have started : Screened u o a.product (queried o s) :=
              screened_congr (t := s) rfl screened
            have ⟨kept, from_⟩ := attempts_gated selects 1 _ _ _ started searched
            rw [← (Prod.mk.inj updated).2]
            exact ⟨screened_congr (t := s₁) rfl kept, from_⟩

theorem retrievalStage_screened (guarded : a.service ≠ some .direct) :
    (retrievalStage u o a).Preserves (Screened u o a.product) := by
  intro s screened
  unfold retrievalStage
  split
  · exact screened_congr (t := s) rfl screened
  · next service found =>
      cases service with
      | direct => exact absurd found guarded
      | guarded =>
          have started : Screened u o a.product (queried o s) :=
            screened_congr (t := s) rfl screened
          split
          · exact started
          · exact (Step.Preserves.andThen (attempts_screened 1) fun _ =>
              screened_of_keeps (keeps_updateContext fun _ => rfl)) _ started

theorem ignoresAttempts_references :
    IgnoresAttempts fun s : State => s.ctx.evidenceReferences :=
  ⟨fun _ _ => rfl, fun _ _ => rfl, fun _ _ => rfl, fun _ _ => rfl, fun _ => rfl⟩

/-- A search that fails leaves the references as they are. -/
theorem retrievalStage_error {failure : Failure}
    (ran : retrievalStage u o a s = (.error failure, t)) :
    t.ctx.evidenceReferences = s.ctx.evidenceReferences := by
  unfold retrievalStage at ran
  split at ran
  · rw [← (Prod.mk.inj ran).2]
    rfl
  · next service found =>
      split at ran
      · rw [← (Prod.mk.inj ran).2]
        rfl
      · cases Step.andThen_error ran with
        | inl failed =>
            have kept := keeps_attempts u o a ignoresAttempts_references service 1 (queried o s)
            rw [failed] at kept
            exact kept
        | inr rest =>
            have ⟨references, s₁, _, updated⟩ := rest
            cases (Prod.mk.inj updated).1

/-- A state with no references and a capture of the guard. -/
structure Clean (u : Unicode) (o : Outside) (product : ProductContext) (s : State) : Prop where
  screened : Screened u o product s
  unreferenced : s.ctx.evidenceReferences = []

theorem Clean.gated {product : ProductContext} (clean : Clean u o product s) :
    Gated u o product s :=
  gated_nil clean.screened clean.unreferenced

/-- However the retrieval of a run without references ends. -/
theorem retrievalStage_clean (selects : Selects o) (guarded : a.service ≠ some .direct)
    (clean : Clean u o a.product s) : Gated u o a.product (retrievalStage u o a s).2 := by
  cases ran : retrievalStage u o a s with
  | mk result t =>
      cases result with
      | ok x => exact retrievalStage_gated selects guarded s t x clean.screened ran
      | error failure =>
          have kept := retrievalStage_screened guarded s clean.screened
          rw [ran] at kept
          exact gated_nil kept ((retrievalStage_error ran).trans clean.unreferenced)

theorem deadlineScope_clean (selects : Selects o) (guarded : a.service ≠ some .direct)
    (clean : Clean u o a.product s) :
    Gated u o a.product (deadlineScope o (retrievalStage u o a) s).2 := by
  have token : (callUnit o.token).Preserves (Gated u o a.product) :=
    gated_of_keeps (keeps_call (fun _ => rfl) _)
  unfold deadlineScope Step.andThen
  cases before : callUnit o.token s with
  | mk result s₁ =>
      have counted : s₁ = { s with calls := s.calls + 1 } := (Prod.mk.inj before).2.symm
      cases result with
      | error failure =>
          rw [counted]
          exact gated_congr (t := s) rfl clean.gated
      | ok x =>
          have started : Clean u o a.product s₁ := by
            rw [counted]
            exact ⟨screened_congr (t := s) rfl clean.screened, clean.unreferenced⟩
          have searched := retrievalStage_clean selects guarded started
          dsimp only
          cases ran : retrievalStage u o a s₁ with
          | mk result s₂ =>
              rw [ran] at searched
              cases result with
              | error failure => exact searched
              | ok y => exact token s₂ searched

theorem keeps_evidence_guidance {body : Step Unit} (keeps : body.Keeps evidence) :
    (deadlineScope o body).Preserves (Gated u o a.product) :=
  gated_of_keeps (keeps_deadlineScope o (fun _ => rfl) keeps)

theorem generation_gated :
    (deadlineScope o (generationStage config o)).Preserves (Gated u o a.product) :=
  keeps_evidence_guidance (keeps_generationStage config o ignoresGuidance_evidence)

theorem validation_gated : (deadlineScope o (validationStage o)).Preserves (Gated u o a.product) :=
  keeps_evidence_guidance (keeps_validationStage o ignoresGuidance_evidence)

/-! ### The retries -/

theorem retryGeneration_gated : (retryGeneration config o).Preserves (Gated u o a.product) :=
  Step.Preserves.andThen (gated_of_keeps (keeps_call (fun _ => rfl) _)) fun _ =>
    Step.Preserves.andThen (gated_of_keeps (keeps_updateContext fun _ => rfl)) fun _ =>
      generation_gated.andThen fun _ => validation_gated

theorem beginAttempt_screened : (beginAttempt a).Preserves (Screened u o a.product) := by
  intro s screened
  unfold beginAttempt update
  dsimp only
  split
  · exact ⟨fun _ member => absurd member List.not_mem_nil,
      fun _ member => absurd member List.not_mem_nil⟩
  · exact screened

/-- A stage of retrieval that ends well leaves the references of its own attempts. -/
theorem deadlineScope_gated (selects : Selects o) (guarded : a.service ≠ some .direct) :
    Step.Ensures (Screened u o a.product) (deadlineScope o (retrievalStage u o a)) fun _ t =>
      Gated u o a.product t := by
  intro s t x screened ran
  have ⟨s', body, same⟩ := deadlineScope_eq_ok ran
  rw [same]
  have started : Screened u o a.product { s with calls := s.calls + 1 } :=
    screened_congr (t := s) rfl screened
  exact gated_congr (t := s') rfl (retrievalStage_gated selects guarded _ _ _ started body)

theorem retryRetrieval_gated (selects : Selects o) (guarded : a.service ≠ some .direct) :
    Step.Ensures (Screened u o a.product) (retryRetrieval u config o a) fun _ t =>
      Gated u o a.product t := by
  refine Step.Ensures.andThen
    (Step.Preserves.ensures (screened_of_keeps (keeps_call (fun _ => rfl) _))) fun _ => ?_
  refine Step.Ensures.andThen (Step.Preserves.ensures beginAttempt_screened) fun _ => ?_
  refine Step.Ensures.andThen
    (Step.Preserves.ensures (screened_of_keeps (keeps_updateContext fun _ => rfl))) fun _ => ?_
  refine Step.Ensures.andThen (deadlineScope_gated selects guarded) fun _ => ?_
  intro s t x gated ran
  dsimp only at ran
  split at ran
  · rw [← (Prod.mk.inj ran).2]
    exact gated
  · exact retryGeneration_gated.ensures s t x gated ran

theorem retryRetrieval_screened (guarded : a.service ≠ some .direct) :
    (retryRetrieval u config o a).Preserves (Screened u o a.product) := by
  have ignores : IgnoresGuidance fun s : State => s.capture :=
    ⟨fun _ _ => rfl, fun _ _ => rfl, fun _ _ => rfl, fun _ _ => rfl, fun _ _ => rfl, fun _ => rfl⟩
  have token : (callUnit o.token).Preserves (Screened u o a.product) :=
    screened_of_keeps (keeps_call (fun _ => rfl) _)
  have again : (retryGeneration config o).Preserves (Screened u o a.product) :=
    token.andThen fun _ =>
      Step.Preserves.andThen (screened_of_keeps (keeps_updateContext fun _ => rfl)) fun _ =>
        Step.Preserves.andThen (screened_of_keeps (keeps_deadlineScope o (fun _ => rfl)
          (keeps_generationStage config o ignores))) fun _ =>
            screened_of_keeps (keeps_deadlineScope o (fun _ => rfl)
              (keeps_validationStage o ignores))
  refine token.andThen fun _ => beginAttempt_screened.andThen fun _ =>
    Step.Preserves.andThen (screened_of_keeps (keeps_updateContext fun _ => rfl)) fun _ =>
      Step.Preserves.andThen (token.andThen fun _ => (retrievalStage_screened guarded).andThen
        fun _ => token) fun _ => ?_
  intro s screened
  dsimp only
  split
  · exact screened
  · exact again s screened

/-! ### The final decision -/

theorem ignoresRoute_evidence : IgnoresRoute evidence :=
  ⟨fun _ _ => rfl, fun _ _ => rfl, fun _ _ => rfl⟩

theorem routeRuntime_gated (harness : HarnessResult) (guidance : Option UsageGuidance)
    (reason : Option String) :
    (routeRuntime o a harness guidance reason).Preserves (Gated u o a.product) :=
  gated_of_keeps (keeps_routeRuntime o a ignoresRoute_evidence harness guidance reason)

theorem block_gated : (updateContext block).Preserves (Gated u o a.product) :=
  gated_of_keeps (keeps_updateContext fun _ => rfl)

theorem escalated_gated (harness : HarnessResult) :
    (updateContext (escalated harness)).Preserves (Gated u o a.product) := by
  intro s gated
  show Gated u o a.product { s with ctx := escalated harness s.ctx }
  unfold escalated
  dsimp only
  split
  · exact gated_nil (screened_congr (t := s) rfl gated.screened) rfl
  · exact gated_congr (t := s) rfl gated

theorem finish_gated (performed : Performed) (stage : Option String) (result : HarnessResult) :
    (finish o a performed stage result).Preserves (Gated u o a.product) := by
  refine Step.Preserves.andThen ?_ fun _ _ gated => gated
  intro s gated
  unfold routeFinal
  dsimp only
  split
  · split
    · exact (block_gated.andThen fun _ => routeRuntime_gated result none none) s gated
    · exact ((routeRuntime_gated result _ none).andThen fun _ =>
        block_gated.andThen fun _ => gated_of_keeps (keeps_return _)) s gated
  · exact ((escalated_gated result).andThen fun _ t => routeRuntime_gated result _ none t) s gated
  · exact routeRuntime_gated result _ _ s gated

/-- An escalation without accepted evidence takes the references away. -/
theorem finish_clears (performed : Performed) (stage : Option String) {result : HarnessResult}
    (escalates : result.decision = .escalate)
    (none : result.verification.acceptedEvidenceChunkIds = []) :
    Step.Ensures (Screened u o a.product) (finish o a performed stage result) fun _ t =>
      Gated u o a.product t := by
  intro s t x screened ran
  have cleared : Gated u o a.product { s with ctx := escalated result s.ctx } := by
    refine gated_nil (screened_congr (t := s) rfl screened) ?_
    unfold escalated
    rw [none]
    rfl
  have routed : (routeFinal o a result s).2 =
      (routeRuntime o a result (escalated result s.ctx).usageGuidance Option.none
        { s with ctx := escalated result s.ctx }).2 := by
    unfold routeFinal
    dsimp only
    rw [escalates]
    rfl
  have ⟨_, s', ended, returned⟩ := Step.andThen_eq_ok.1 ran
  rw [← (Prod.mk.inj returned).2]
  rw [ended] at routed
  dsimp only at routed
  rw [routed]
  exact routeRuntime_gated result _ _ _ cleared

/-! ### What the harness accepts -/

/-- The comparison of the harness lets a chunk through. -/
def Accepts (u : Unicode) (product : ProductContext) (chunk : RetrievedChunk) : Prop :=
  (normalizeModelCode u chunk.modelCode).isSome = true ∧
    normalizeModelCode u chunk.modelCode = normalizeModelCode u (some product.modelCode) ∧
      (inferProductFamily u chunk.modelCode).any (· != product.productFamily) = false

theorem matchChunk_accepted {product : ProductContext} {chunk : RetrievedChunk}
    {result result' : ProductMatchResult}
    (matched : matchChunk u product result chunk = .ok result') :
    (Accepts u product chunk ∧
        result'.acceptedChunkIds = result.acceptedChunkIds ++ [chunk.chunkId]) ∨
      (¬Accepts u product chunk ∧ result'.acceptedChunkIds = result.acceptedChunkIds) := by
  unfold matchChunk at matched
  dsimp only at matched
  split at matched
  · next wrong =>
      have ⟨found, _, same⟩ := bind_eq_ok.1 matched
      cases same
      refine .inr ⟨fun accepts => ?_, rfl⟩
      have ⟨named, model, _⟩ := accepts
      simp only [Bool.or_eq_true, Option.isNone_iff_eq_none, bne_iff_ne] at wrong
      cases wrong with
      | inl unnamed =>
          rw [unnamed] at named
          cases named
      | inr other => exact other model
  · next right =>
      simp only [Bool.or_eq_true, Option.isNone_iff_eq_none, bne_iff_ne, not_or, Decidable.not_not]
        at right
      have ⟨named, model⟩ := right
      split at matched
      · next conflict =>
          have ⟨found, _, same⟩ := bind_eq_ok.1 matched
          cases same
          refine .inr ⟨fun accepts => ?_, rfl⟩
          rw [accepts.2.2] at conflict
          cases conflict
      · next fits =>
          cases matched
          exact .inl ⟨⟨Option.isSome_iff_ne_none.2 named, model, Bool.eq_false_iff.2 fits⟩, rfl⟩

theorem foldlM_accepted {product : ProductContext} {chunks : List RetrievedChunk}
    {result result' : ProductMatchResult}
    (matched : chunks.foldlM (matchChunk u product) result = .ok result') {id : String} :
    id ∈ result'.acceptedChunkIds ↔ id ∈ result.acceptedChunkIds ∨
      ∃ chunk ∈ chunks, Accepts u product chunk ∧ chunk.chunkId = id := by
  induction chunks generalizing result with
  | nil =>
      cases matched
      simp
  | cons chunk rest ih =>
      rw [List.foldlM_cons] at matched
      have ⟨between, first, later⟩ := bind_eq_ok.1 matched
      rw [ih later]
      cases matchChunk_accepted first with
      | inl accepted =>
          rw [accepted.2, List.mem_append, List.mem_singleton]
          constructor
          · intro kept
            rcases kept with (before | same) | ⟨other, member, accepts, named⟩
            · exact .inl before
            · exact .inr ⟨chunk, List.mem_cons_self, accepted.1, same.symm⟩
            · exact .inr ⟨other, List.mem_cons_of_mem _ member, accepts, named⟩
          · intro kept
            rcases kept with before | ⟨other, member, accepts, named⟩
            · exact .inl (.inl before)
            · cases List.mem_cons.1 member with
              | inl same => exact .inl (.inr (same ▸ named.symm))
              | inr inside => exact .inr ⟨other, inside, accepts, named⟩
      | inr refused =>
          rw [refused.2]
          constructor
          · intro kept
            rcases kept with before | ⟨other, member, accepts, named⟩
            · exact .inl before
            · exact .inr ⟨other, List.mem_cons_of_mem _ member, accepts, named⟩
          · intro kept
            rcases kept with before | ⟨other, member, accepts, named⟩
            · exact .inl before
            · cases List.mem_cons.1 member with
              | inl same => exact absurd (same ▸ accepts) refused.1
              | inr inside => exact .inr ⟨other, inside, accepts, named⟩

theorem matchProduct_accepted {product : ProductContext} {chunks : List RetrievedChunk}
    {functions : List (List Char)} {result : ProductMatchResult}
    (matched : matchProduct u product chunks functions = .ok result) {id : String} :
    id ∈ result.acceptedChunkIds ↔
      ∃ chunk ∈ chunks, Accepts u product chunk ∧ chunk.chunkId = id := by
  unfold matchProduct at matched
  obtain ⟨folded, ran, rest⟩ := bind_eq_ok.1 matched
  have known : id ∈ _ ↔ _ := foldlM_accepted ran
  rw [or_iff_right List.not_mem_nil] at known
  dsimp only at rest
  split at rest
  · cases rest
    exact known
  · obtain ⟨found, _, same⟩ := bind_eq_ok.1 rest
    cases same
    exact known

/-- Of the chunks with one id the harness is shown the first. -/
theorem mem_distinct (kept chunks : List RetrievedChunk) (chunk : RetrievedChunk) :
    chunk ∈ chunks.foldl (fun kept chunk =>
      if kept.any (·.chunkId == chunk.chunkId) then kept else kept ++ [chunk]) kept ↔
      chunk ∈ kept ∨ (kept.any (·.chunkId == chunk.chunkId) = false ∧
        chunks.find? (·.chunkId == chunk.chunkId) = some chunk) := by
  induction chunks generalizing kept with
  | nil => simp
  | cons first rest ih =>
      rw [List.foldl_cons, ih]
      by_cases same : first.chunkId = chunk.chunkId
      · have found : (first :: rest).find? (·.chunkId == chunk.chunkId) = some first :=
          List.find?_cons_of_pos (beq_iff_eq.2 same)
        rw [found, same]
        cases listed : kept.any (·.chunkId == chunk.chunkId) with
        | true => simp [listed]
        | false => simp [listed, same, eq_comm]
      · have found : (first :: rest).find? (·.chunkId == chunk.chunkId) =
            rest.find? (·.chunkId == chunk.chunkId) :=
          List.find?_cons_of_neg fun equal => same (eq_of_beq equal)
        have other : chunk ≠ first := fun equal => same (equal ▸ rfl)
        rw [found]
        cases kept.any (·.chunkId == first.chunkId) with
        | true => simp
        | false => simp [other, same]

theorem mem_evidenceForHarness {chunk : RetrievedChunk} :
    chunk ∈ evidenceForHarness s ↔ ((s.capture.forwarded.filter fun chunk =>
      s.ctx.evidenceReferences.contains chunk.chunkId) ++ s.capture.rejected).find?
        (·.chunkId == chunk.chunkId) = some chunk := by
  unfold evidenceForHarness
  rw [mem_distinct]
  simp

/-- The registry knows the product of a run, and the guard is the capture of the run. -/
structure Known (u : Unicode) (a : Args) : Prop where
  captured : a.captured = true
  family : a.product.productFamily ≠ .unknown
  registered : Registered u a.product

theorem forwards_iff {product : ProductContext} (known : product.productFamily ≠ .unknown)
    {chunk : RetrievedChunk} : forwards u product chunk = true ↔ chunk.approved = true ∧
      normalizeModelCode u chunk.modelCode = normalizeModelCode u (some product.modelCode) := by
  unfold forwards
  simp only [Bool.and_eq_true, bne_iff_ne, beq_iff_eq]
  constructor
  · intro passed
    exact ⟨passed.1.2, passed.2⟩
  · intro passed
    exact ⟨⟨known, passed.1⟩, passed.2⟩

theorem accepts_of_forwards (known : Known u a) {chunk : RetrievedChunk}
    (passed : forwards u a.product chunk = true) : Accepts u a.product chunk := by
  have ⟨_, model⟩ := (forwards_iff known.family).1 passed
  have ⟨named, inferred⟩ := known.registered known.family
  refine ⟨model ▸ named, model, ?_⟩
  have same : inferProductFamily u chunk.modelCode = some a.product.productFamily := by
    rw [← inferred]
    unfold inferProductFamily
    rw [model]
  rw [same, Option.any_some]
  exact bne_self_eq_false _

/-- The approved evidence that the comparison lets through is what the references name. -/
theorem accepted_iff_references (known : Known u a) (gated : Gated u o a.product s) {id : String} :
    (∃ chunk ∈ (evidenceForHarness s).filter (·.approved),
      Accepts u a.product chunk ∧ chunk.chunkId = id) ↔ id ∈ s.ctx.evidenceReferences := by
  constructor
  · intro accepted
    have ⟨chunk, member, accepts, named⟩ := accepted
    have ⟨shown, approved⟩ := List.mem_filter.1 member
    have listed := List.mem_of_find?_eq_some (mem_evidenceForHarness.1 shown)
    cases List.mem_append.1 listed with
    | inl used =>
        have referenced := (List.mem_filter.1 used).2
        rw [named] at referenced
        exact List.contains_iff_mem.1 referenced
    | inr rejected =>
        have passed := (forwards_iff (u := u) known.family).2 ⟨approved, accepts.2.1⟩
        rw [gated.screened.rejected chunk rejected] at passed
        cases passed
  · intro referenced
    have ⟨chunk, forwarded, named⟩ := gated.references id referenced
    have used : chunk ∈ s.capture.forwarded.filter fun chunk =>
        s.ctx.evidenceReferences.contains chunk.chunkId := by
      refine List.mem_filter.2 ⟨forwarded, ?_⟩
      rw [named]
      exact List.contains_iff_mem.2 referenced
    -- the first chunk with the id is one of the forwarded ones
    have some_ : ((s.capture.forwarded.filter fun chunk =>
        s.ctx.evidenceReferences.contains chunk.chunkId).find? (·.chunkId == id)).isSome = true :=
      List.find?_isSome.2 ⟨chunk, used, beq_iff_eq.2 named⟩
    have ⟨first, found⟩ := Option.isSome_iff_exists.1 some_
    have same : first.chunkId = id := eq_of_beq (List.find?_some (p := fun chunk : RetrievedChunk =>
      chunk.chunkId == id) found)
    have ⟨inside, _⟩ := List.mem_filter.1 (List.mem_of_find?_eq_some found)
    have ⟨_, passed⟩ := gated.screened.forwarded first inside
    refine ⟨first, List.mem_filter.2 ⟨mem_evidenceForHarness.2 ?_, ?_⟩,
      accepts_of_forwards known passed, same⟩
    · rw [same, List.find?_append, found]
      rfl
    · exact ((forwards_iff known.family).1 passed).1

/-- A verification that passes has looked at the evidence. -/
theorem accepted_of_pass {r : Request} {verification : VerificationResult}
    (verified : verify u config r = .ok verification) (passes : verification.decision = .pass)
    {id : String} : id ∈ verification.acceptedEvidenceChunkIds ↔
      ∃ chunk ∈ r.evidenceChunks.filter (·.approved),
        Accepts u r.product chunk ∧ chunk.chunkId = id := by
  unfold verify at verified
  split at verified
  · have ⟨found, _, same⟩ := bind_eq_ok.1 verified
    cases same
    cases passes
  · split at verified
    · have ⟨found, _, rest⟩ := bind_eq_ok.1 verified
      have ⟨safe, _, same⟩ := bind_eq_ok.1 rest
      cases same
      cases passes
    · split at verified
      · have ⟨found, _, rest⟩ := bind_eq_ok.1 verified
        have ⟨safe, _, same⟩ := bind_eq_ok.1 rest
        cases same
        unfold closed at passes
        dsimp only at passes
        split at passes
        · cases passes
        · cases passes
      · unfold verifyEvidence at verified
        rw [List.partition_eq_filter_filter] at verified
        have ⟨unverified, _, rest⟩ := bind_eq_ok.1 verified
        have ⟨matched, ran, rest⟩ := bind_eq_ok.1 rest
        have ⟨absent, _, rest⟩ := bind_eq_ok.1 rest
        have ⟨safety, _, rest⟩ := bind_eq_ok.1 rest
        have ⟨conflict, _, rest⟩ := bind_eq_ok.1 rest
        have ⟨schema, _, same⟩ := bind_eq_ok.1 rest
        cases same
        exact matchProduct_accepted ran

theorem decision_resultOf {r : Request} {state : RetryState} {verification : VerificationResult}
    (passes : (resultOf r state verification).decision = .pass) :
    verification.decision = .pass := by
  unfold resultOf at passes
  split at passes
  · cases passes
  · split at passes
    · cases passes
    · dsimp only at passes
      split at passes
      · cases passes
      · dsimp only at passes
        unfold applyPolicy at passes
        cases decided : verification.decision with
        | pass => rfl
        | humanReview =>
            rw [decided] at passes
            cases passes
        | escalate =>
            rw [decided] at passes
            cases passes
        | retryRetrieval =>
            rw [decided] at passes
            dsimp only at passes
            split at passes
            · cases passes
            · cases passes
        | retryGeneration =>
            rw [decided] at passes
            dsimp only at passes
            split at passes
            · cases passes
            · cases passes

theorem verification_resultOf (r : Request) (state : RetryState)
    (verification : VerificationResult) :
    (resultOf r state verification).verification = verification := by
  unfold resultOf
  split
  · rfl
  · split
    · rfl
    · dsimp only
      split
      · rfl
      · rfl

/-- What a round of the runtime passes is what the references name. -/
theorem verifyRound_pass (known : Known u a) {state : RetryState} {failure : Option ToolFailure}
    {result : HarnessResult} (gated : Gated u o a.product s)
    (judged : verifyRound u config a state failure s = (.ok result, t))
    (passes : result.decision = .pass) {id : String} :
    id ∈ result.verification.acceptedEvidenceChunkIds ↔ id ∈ s.ctx.evidenceReferences := by
  unfold verifyRound Reliability.harness at judged
  dsimp only at judged
  rw [known.captured, if_pos rfl] at judged
  split at judged
  · next found harnessed =>
      have same : found = result := Except.ok.inj (Prod.mk.inj judged).1
      rw [same] at harnessed
      have ⟨verification, verified, result_⟩ := map_eq_ok.1 harnessed
      have decided : verification.decision = .pass := by
        rw [← result_] at passes
        exact decision_resultOf passes
      rw [← result_, verification_resultOf, accepted_of_pass verified decided]
      exact accepted_iff_references known gated
  · cases (Prod.mk.inj judged).1

/-- What every run of a step returns. -/
def Step.Returns {α : Type} (step : Step α) (P : α → Prop) : Prop :=
  ∀ s t a, step s = (.ok a, t) → P a

theorem Step.Returns.andThen {α β : Type} {first : Step α} {next : α → Step β} {P : β → Prop}
    (h : ∀ a, (next a).Returns P) : (first.andThen next).Returns P := by
  intro s t b ran
  have ⟨a, s', _, ended⟩ := Step.andThen_eq_ok.1 ran
  exact h a s' t b ended

theorem returns_createHandoff (harness : HarnessResult) (reason : String) :
    (createHandoff o harness reason).Returns fun x => x.harness = harness := by
  intro s t x ran
  have ⟨_, s₁, _, ran⟩ := Step.andThen_eq_ok.1 ran
  have ⟨_, s₂, _, ran⟩ := Step.andThen_eq_ok.1 ran
  rw [← Except.ok.inj (Prod.mk.inj ran).1]

theorem returns_startReview (harness : HarnessResult) (guidance : UsageGuidance) :
    (startReview o a harness guidance).Returns fun x => x.harness = harness := by
  intro s t x ran
  have ⟨_, s₁, _, ran⟩ := Step.andThen_eq_ok.1 ran
  have ⟨_, s₂, _, ran⟩ := Step.andThen_eq_ok.1 ran
  rw [← Except.ok.inj (Prod.mk.inj ran).1]

/-- The route leaves the verdict of the harness as it is. -/
theorem returns_routeRuntime (harness : HarnessResult) (guidance : Option UsageGuidance)
    (reason : Option String) :
    (routeRuntime o a harness guidance reason).Returns fun x => x.harness = harness := by
  unfold routeRuntime
  split
  · split
    · exact returns_createHandoff harness _
    · exact returns_startReview harness _
  · split
    · exact returns_createHandoff harness _
    · split
      · exact returns_createHandoff harness _
      · intro s t x ran
        rw [← Except.ok.inj (Prod.mk.inj ran).1]

theorem returns_routeFinal (harness : HarnessResult) :
    (routeFinal o a harness).Returns fun x => x.harness = harness := by
  intro s t x ran
  unfold routeFinal at ran
  dsimp only at ran
  split at ran
  · split at ran
    · exact Step.Returns.andThen (fun _ => returns_routeRuntime harness none none) s t x ran
    · have ⟨routed, s', inner, ended⟩ := Step.andThen_eq_ok.1 ran
      have ⟨_, s₂, _, same⟩ := Step.andThen_eq_ok.1 ended
      rw [← Except.ok.inj (Prod.mk.inj same).1]
      exact returns_routeRuntime harness _ none s s' routed inner
  · have ⟨_, s', _, ended⟩ := Step.andThen_eq_ok.1 ran
    exact returns_routeRuntime harness _ none s' t x ended
  · exact returns_routeRuntime harness _ _ s t x ran

theorem returns_finish (performed : Performed) (stage : Option String) (result : HarnessResult) :
    (finish o a performed stage result).Returns fun x => x.harnessRuntime.harness = result := by
  intro s t x ran
  have ⟨routed, s', ended, returned⟩ := Step.andThen_eq_ok.1 ran
  rw [← Except.ok.inj (Prod.mk.inj returned).1]
  exact returns_routeFinal result s s' routed ended

/-- A verdict that passes leaves the evidence as it found it. -/
theorem finish_passed {performed : Performed} {stage : Option String} {result : HarnessResult}
    {x : ReliabilityResult} (passes : result.decision = .pass)
    (ran : finish o a performed stage result s = (.ok x, t)) : evidence t = evidence s := by
  have ⟨routed, s', ended, returned⟩ := Step.andThen_eq_ok.1 ran
  unfold routeFinal at ended
  dsimp only at ended
  rw [passes] at ended
  dsimp only at ended
  have kept := keeps_routeRuntime o a ignoresRoute_evidence result s.ctx.usageGuidance
    (if isDanger s.ctx then some "DANGER_PRIORITY" else none) s
  rw [ended] at kept
  rw [← (Prod.mk.inj returned).2]
  exact kept

/-! ### The runs of the runtime -/

/-- A verification that does not look at the evidence accepts none. -/
theorem accepted_closed {r : Request} {verification : VerificationResult}
    (shut : r.timedOut = true ∨ r.product.runtimeApproved = false ∨ r.toolFailure.isSome = true)
    (verified : verify u config r = .ok verification) :
    verification.acceptedEvidenceChunkIds = [] := by
  unfold verify at verified
  split at verified
  · have ⟨found, _, same⟩ := bind_eq_ok.1 verified
    cases same
    rfl
  · next timely =>
      split at verified
      · have ⟨found, _, rest⟩ := bind_eq_ok.1 verified
        have ⟨safe, _, same⟩ := bind_eq_ok.1 rest
        cases same
        rfl
      · next approved =>
          split at verified
          · have ⟨found, _, rest⟩ := bind_eq_ok.1 verified
            have ⟨safe, _, same⟩ := bind_eq_ok.1 rest
            cases same
            rfl
          · next whole =>
              rw [whole] at shut
              simp_all

/-- The verdict of a run: the references were forwarded in the last attempt, and a verdict that
passes has accepted exactly those. -/
structure Settled (u : Unicode) (o : Outside) (a : Args) (x : ReliabilityResult) (t : State) :
    Prop where
  gated : Gated u o a.product t
  accepted : Known u a → x.harnessRuntime.harness.decision = .pass → ∀ id,
    id ∈ x.harnessRuntime.harness.verification.acceptedEvidenceChunkIds ↔
      id ∈ t.ctx.evidenceReferences

/-- A verdict that escalates without accepted evidence is settled. -/
theorem finish_escalated (performed : Performed) (stage : Option String) {result : HarnessResult}
    (escalates : result.decision = .escalate)
    (none : result.verification.acceptedEvidenceChunkIds = []) :
    Step.Ensures (Screened u o a.product) (finish o a performed stage result)
      (Settled u o a) := by
  intro s t x screened ran
  refine ⟨finish_clears performed stage escalates none s t x screened ran, ?_⟩
  intro _ passes
  rw [returns_finish performed stage result s t x ran, escalates] at passes
  cases passes

theorem timeoutResult_settled {state : RetryState} (performed : Performed) (stage : String) :
    Step.Ensures (Screened u o a.product) (timeoutResult u config o a state performed stage)
      (Settled u o a) := by
  intro s t x screened ran
  have ⟨result, s', judged, finished⟩ := Step.andThen_eq_ok.1 ran
  have ⟨same, r, late, _, _, _, harnessed⟩ := harness_eq_ok judged
  have ⟨verification, verified, result_⟩ := map_eq_ok.1 harnessed
  rw [same] at finished
  refine finish_escalated performed (some stage) (escalate_of_timedOut late harnessed) ?_ s t x
    screened finished
  rw [← result_, verification_resultOf]
  exact accepted_closed (.inl late) verified

theorem toolFailureResult_settled {state : RetryState} (performed : Performed)
    (kind : Option ToolFailureKind) (retryable : Bool) (spent : state.retrievalRetries = 1) :
    Step.Ensures (Screened u o a.product)
      (toolFailureResult u config o a state performed kind retryable) (Settled u o a) := by
  intro s t x screened ran
  have ⟨result, s', judged, finished⟩ := Step.andThen_eq_ok.1 ran
  have ⟨same, r, _, failed, _, _, harnessed⟩ := harness_eq_ok judged
  have ⟨verification, verified, result_⟩ := map_eq_ok.1 harnessed
  rw [same] at finished
  refine finish_escalated performed none (escalate_of_toolFailure failed spent harnessed) ?_ s t x
    screened finished
  rw [← result_, verification_resultOf]
  refine accepted_closed (.inr (.inr ?_)) verified
  rw [failed]
  rfl

theorem verifyRound_eq_ok {state : RetryState} {failure : Option ToolFailure}
    {result : HarnessResult} (ran : verifyRound u config a state failure s = (.ok result, t)) :
    t = s ∧ Honest state result := by
  have ⟨same, r, _, _, _, _, harnessed⟩ := harness_eq_ok ran
  exact ⟨same, honest_run harnessed⟩

/-- The end of a run, on what its last verification found. -/
theorem finish_settled {state : RetryState} {failure : Option ToolFailure} {s' : State}
    {performed : Performed} {stage : Option String} {result : HarnessResult}
    {x : ReliabilityResult} (gated : Gated u o a.product s)
    (judged : verifyRound u config a state failure s = (.ok result, s'))
    (ran : finish o a performed stage result s = (.ok x, t)) : Settled u o a x t := by
  refine ⟨(finish_gated performed stage result).ensures s t x gated ran, ?_⟩
  intro known passes id
  rw [returns_finish performed stage result s t x ran] at passes ⊢
  have kept := finish_passed passes ran
  rw [(Prod.mk.inj kept).1]
  exact verifyRound_pass known gated judged passes

theorem fallback_settled (state : RetryState) (performed : Performed) :
    Step.Ensures (Gated u o a.product) (fallback u config o a state performed)
      (Settled u o a) := by
  intro s t x gated ran
  have ⟨result, s', judged, finished⟩ := Step.andThen_eq_ok.1 ran
  rw [(verifyRound_eq_ok judged).1] at finished
  exact finish_settled gated judged finished

theorem rounds_settled (selects : Selects o) (guarded : a.service ≠ some .direct) (n : Nat)
    (state : RetryState) (performed : Performed) (failure : Option ToolFailure) :
    Step.Ensures (Gated u o a.product) (rounds u config o a n state performed failure)
      (Settled u o a) := by
  induction n generalizing state performed failure with
  | zero => exact fallback_settled state performed
  | succ n ih =>
      intro s t x gated ran
      have ⟨result, s', judged, rest⟩ := Step.andThen_eq_ok.1 ran
      have ⟨same, honest⟩ := verifyRound_eq_ok judged
      rw [same] at rest
      dsimp only at rest
      split at rest
      · next retries =>
          split at rest
          · exact fallback_settled _ performed s t x gated rest
          · have spent := (honest.retrieval retries).2.1
            have kept : Screened u o a.product (retryRetrieval u config o a s).2 :=
              retryRetrieval_screened guarded s gated.screened
            split at rest
            · next s₁ ended =>
                exact ih _ _ none s₁ t x
                  (retryRetrieval_gated selects guarded s s₁ () gated.screened ended) rest
            · next stage s₁ ended =>
                rw [ended] at kept
                exact timeoutResult_settled _ stage s₁ t x kept rest
            · next kind retryable s₁ ended =>
                rw [ended] at kept
                exact toolFailureResult_settled _ kind retryable spent s₁ t x kept rest
            · cases (Prod.mk.inj rest).1
      · split at rest
        · exact fallback_settled _ performed s t x gated rest
        · have kept : Gated u o a.product (retryGeneration config o s).2 :=
            retryGeneration_gated s gated
          split at rest
          · next s₁ ended =>
              rw [ended] at kept
              exact ih _ _ none s₁ t x kept rest
          · next stage s₁ ended =>
              rw [ended] at kept
              exact timeoutResult_settled _ stage s₁ t x kept.screened rest
          · cases (Prod.mk.inj rest).1
      · exact finish_settled gated judged rest

/-- A run of the runtime over gated evidence is settled. -/
theorem run_settled (selects : Selects o) (guarded : a.service ≠ some .direct) :
    Step.Ensures (Gated u o a.product) (run u config o a) (Settled u o a) :=
  rounds_settled selects guarded 3 ⟨0, 0⟩ ⟨false, false⟩ a.toolFailure

end Gate

end WaterCare.Ai.Reliability
