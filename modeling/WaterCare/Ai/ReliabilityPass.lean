import WaterCare.Ai.ReliabilityRouting

/-!
What the reliability runtime leaves as it is, and the requests that the harness passes: evidence
that fits the product, a guidance, and no danger.
-/

namespace WaterCare.Ai.Reliability
open Store Analysis Machine Py Harness

/-! ### Steps that leave a part of the state -/

def Step.Keeps {α β : Type} (f : State → β) (step : Step α) : Prop := ∀ s, f (step s).2 = f s

/-- Whether the run waits for the customer. -/
def waits (s : State) : Bool := s.ctx.awaitingCustomerInput

section Keeps
variable {α β γ : Type} {f : State → γ} {first : Step α} {next : α → Step β}

theorem Step.Keeps.andThen (h : first.Keeps f) (h' : ∀ a, (next a).Keeps f) :
    (first.andThen next).Keeps f := by
  intro s
  have kept := h s
  unfold Step.andThen
  split
  · next failure t ended =>
      rw [ended] at kept
      exact kept
  · next a t ended =>
      rw [ended] at kept
      exact (h' a t).trans kept

theorem keeps_return (x : Except Failure α) : Step.Keeps f fun s => (x, s) := fun _ => rfl

theorem keeps_call (h : ∀ s : State, f { s with calls := s.calls + 1 } = f s)
    (answer : Nat → Except Failure α) : (call answer).Keeps f := h

theorem keeps_updateContext {g : Context → Context}
    (h : ∀ s : State, f { s with ctx := g s.ctx } = f s) : (updateContext g).Keeps f := h

theorem keeps_deadlineScope (o : Outside) (h : ∀ s : State, f { s with calls := s.calls + 1 } = f s)
    {body : Step Unit} (kept : body.Keeps f) : (deadlineScope o body).Keeps f :=
  (keeps_call h _).andThen fun _ => kept.andThen fun _ => keeps_call h _

theorem keepsWaiting_call (answer : Nat → Except Failure α) : (call answer).Keeps waits :=
  keeps_call (fun _ => rfl) answer

theorem keepsWaiting_callUnit (answer : Nat → Option Failure) : (callUnit answer).Keeps waits :=
  keepsWaiting_call _

end Keeps

section Stages
variable (u : Unicode) (config : SafetyRules) (o : Outside) (a : Args)

/-- What the attempts of a search do not touch, apart from one retry. -/
structure IgnoresAttempts {γ : Type} (f : State → γ) : Prop where
  calls : ∀ s n, f { s with calls := n } = f s
  capture : ∀ s capture, f { s with capture := capture } = f s
  applied : ∀ s applicability, f { s with ctx := { s.ctx with
    evidenceApplicability := applicability } } = f s
  reasoned : ∀ s reasons, f { s with ctx := { s.ctx with
    evidenceSelectionReasons := reasons } } = f s
  retried : ∀ s, f { s with ctx := { s.ctx with retryCount := max s.ctx.retryCount 1 } } = f s

/-- What the search does not touch, apart from one retry. -/
structure IgnoresSearch {γ : Type} (f : State → γ) : Prop extends IgnoresAttempts f where
  retrievals : ∀ s n, f { s with retrievals := n } = f s
  queried : ∀ s text, f { s with ctx := { s.ctx with retrievalQueryText := text } } = f s
  retrieved : ∀ s references outcome, f { s with ctx := { s.ctx with
    evidenceReferences := references, retrievalOutcome := outcome } } = f s

/-- What the guidance and its validation do not touch, apart from one retry. -/
structure IgnoresGuidance {γ : Type} (f : State → γ) : Prop where
  calls : ∀ s n, f { s with calls := n } = f s
  generations : ∀ s n, f { s with generations := n } = f s
  assessed : ∀ s safety, f { s with ctx := { s.ctx with safetyAssessment := safety } } = f s
  guided : ∀ s guidance, f { s with ctx := { s.ctx with usageGuidance := guidance } } = f s
  described : ∀ s metadata, f { s with ctx := { s.ctx with modelMetadata := metadata } } = f s
  retried : ∀ s, f { s with ctx := { s.ctx with retryCount := max s.ctx.retryCount 1 } } = f s

/-- The filters write the condition and the reasons, if they come that far. -/
theorem filterEvidence_state (chunks : List RetrievedChunk) (s : State) :
    ∃ applicability reasons, (filterEvidence o chunks s).2 = { s with
      calls := s.calls + 1
      ctx := { s.ctx with
        evidenceApplicability := applicability
        evidenceSelectionReasons := reasons } } := by
  unfold filterEvidence
  dsimp only
  cases o.select s.calls chunks with
  | unfiltered failure =>
      exact ⟨s.ctx.evidenceApplicability, s.ctx.evidenceSelectionReasons, rfl⟩
  | unselected failure => exact ⟨o.applicability, s.ctx.evidenceSelectionReasons, rfl⟩
  | unreferenced reasons failure => exact ⟨o.applicability, reasons, rfl⟩
  | selected reasons references => exact ⟨o.applicability, reasons, rfl⟩

section Attempts
variable {γ : Type} {f : State → γ} (h : IgnoresAttempts f)
include h

theorem keeps_searchWith (service : Service) : (searchWith u o a service).Keeps f := by
  have called : (call o.search).Keeps f := keeps_call (fun s => h.calls s _) _
  cases service with
  | direct => exact called
  | guarded =>
      intro s
      simp only [searchWith, guardedSearch]
      split
      · rfl
      · split
        · next failure t ended =>
            have kept := called s
            rw [ended] at kept
            exact kept
        · next chunks t ended =>
            have kept := called s
            rw [ended] at kept
            exact (h.capture t _).trans kept

theorem keeps_filterEvidence (chunks : List RetrievedChunk) :
    (filterEvidence o chunks).Keeps f := by
  intro s
  have ⟨applicability, reasons, filtered⟩ := filterEvidence_state o chunks s
  rw [filtered]
  exact (h.reasoned _ reasons).trans
    ((h.applied { s with calls := s.calls + 1 } applicability).trans (h.calls s _))

theorem keeps_attempt (service : Service) : (attempt u o a service).Keeps f :=
  (keeps_call (fun s => h.calls s _) _).andThen fun _ =>
    (keeps_searchWith u o a h service).andThen fun chunks => keeps_filterEvidence o h chunks

theorem keeps_attempts (service : Service) (n : Nat) : (attempts u o a service n).Keeps f := by
  induction n with
  | zero => exact keeps_attempt u o a h service
  | succ n ih =>
      intro s
      have first := keeps_attempt u o a h service s
      simp only [attempts]
      split
      · next t ended =>
          rw [ended] at first
          have again : ((callUnit o.token).andThen fun _ =>
              (updateContext fun ctx => { ctx with retryCount := max ctx.retryCount 1 }).andThen
                fun _ => attempts u o a service n).Keeps f :=
            Step.Keeps.andThen (keeps_call (fun s => h.calls s _) _) fun _ =>
              (keeps_updateContext h.retried).andThen fun _ => ih
          exact (again t).trans first
      · exact first

end Attempts

theorem keeps_retrievalStage {γ : Type} {f : State → γ} (h : IgnoresSearch f) :
    (retrievalStage u o a).Keeps f := by
  intro s
  have before : f (queried o s) = f s :=
    (h.queried { s with retrievals := s.retrievals + 1 } _).trans (h.retrievals s _)
  simp only [retrievalStage]
  split
  · exact before
  · next service _ =>
      split
      · exact before
      · have rest : ((attempts u o a service 1).andThen keepReferences).Keeps f :=
          (keeps_attempts u o a h.toIgnoresAttempts service 1).andThen fun references =>
            keeps_updateContext fun s => h.retrieved s references _
        exact (rest (queried o s)).trans before

section Guidance
variable {γ : Type} {f : State → γ} (h : IgnoresGuidance f)
include h

theorem keeps_generateGuidance (guidance : UsageGuidance) :
    (generateGuidance o guidance).Keeps f := by
  intro s
  have again : f { s with
      calls := s.calls + 1
      ctx := { s.ctx with retryCount := max s.ctx.retryCount 1 } } = f s :=
    (h.retried { s with calls := s.calls + 1 }).trans (h.calls s _)
  unfold generateGuidance
  dsimp only
  cases (o.write s.calls).retried with
  | true =>
      cases (o.write s.calls).result with
      | error failure => exact again
      | ok written => exact (h.described _ _).trans again
  | false =>
      cases (o.write s.calls).result with
      | error failure => exact h.calls s _
      | ok written => exact (h.described _ _).trans (h.calls s _)

theorem keeps_generationStage : (generationStage config o).Keeps f := by
  intro s
  simp only [generationStage]
  split
  · next safety guidance _ =>
      have before : f { s with
          generations := s.generations + 1
          ctx := { s.ctx with safetyAssessment := some safety } } = f s :=
        (h.assessed { s with generations := s.generations + 1 } _).trans (h.generations s _)
      split
      · exact (h.guided _ _).trans before
      · have rest : ((generateGuidance o guidance).andThen fun written => updateContext fun ctx =>
            { ctx with usageGuidance := some written }).Keeps f :=
          (keeps_generateGuidance o h guidance).andThen fun _ =>
            keeps_updateContext fun s => h.guided s _
        exact (rest _).trans before
  · exact h.generations s _

theorem keeps_validationStage : (validationStage o).Keeps f := by
  intro s
  simp only [validationStage]
  split
  · next guidance _ =>
      split
      · rfl
      · have rest : ((call fun n => .ok ((o.sanitize n).getD guidance.message)).andThen fun message =>
            (updateContext fun ctx =>
              { ctx with usageGuidance := some { guidance with message := message } }).andThen
                fun _ => callUnit o.validate).Keeps f :=
          (keeps_call (fun s => h.calls s _) _).andThen fun _ =>
            (keeps_updateContext fun s => h.guided s _).andThen fun _ =>
              keeps_call (fun s => h.calls s _) _
        exact rest s
  · rfl

end Guidance

theorem ignoresSearch_waits : IgnoresSearch waits :=
  ⟨⟨fun _ _ => rfl, fun _ _ => rfl, fun _ _ => rfl, fun _ _ => rfl, fun _ => rfl⟩, fun _ _ => rfl,
    fun _ _ => rfl, fun _ _ _ => rfl⟩

theorem ignoresGuidance_waits : IgnoresGuidance waits :=
  ⟨fun _ _ => rfl, fun _ _ => rfl, fun _ _ => rfl, fun _ _ => rfl, fun _ _ => rfl, fun _ => rfl⟩

theorem keepsWaiting_retrievalStage : (retrievalStage u o a).Keeps waits :=
  keeps_retrievalStage u o a ignoresSearch_waits

theorem keepsWaiting_generationStage : (generationStage config o).Keeps waits :=
  keeps_generationStage config o ignoresGuidance_waits

theorem keepsWaiting_validationStage : (validationStage o).Keeps waits :=
  keeps_validationStage o ignoresGuidance_waits

theorem keepsWaiting_retryGeneration : (retryGeneration config o).Keeps waits :=
  (keepsWaiting_callUnit _).andThen fun _ => (keeps_updateContext fun _ => rfl).andThen
    fun _ => (keeps_deadlineScope o (fun _ => rfl) (keepsWaiting_generationStage config o)).andThen
      fun _ =>
      keeps_deadlineScope o (fun _ => rfl) (keepsWaiting_validationStage o)

theorem keepsWaiting_retryRetrieval : (retryRetrieval u config o a).Keeps waits := by
  refine (keepsWaiting_callUnit _).andThen fun _ => Step.Keeps.andThen ?_ fun _ =>
    (keeps_updateContext fun _ => rfl).andThen fun _ =>
      (keeps_deadlineScope o (fun _ => rfl) (keepsWaiting_retrievalStage u o a)).andThen fun _ => ?_
  · intro s
    simp only [beginAttempt, update]
    split
    · rfl
    · rfl
  · intro s
    dsimp only
    split
    · rfl
    · exact keepsWaiting_retryGeneration config o s

/-! ### The runtime -/

/-- What reviews and handoffs do not touch. -/
structure IgnoresRoute {γ : Type} (f : State → γ) : Prop where
  calls : ∀ s n, f { s with calls := n } = f s
  reviews : ∀ s reviews, f { s with reviews := reviews } = f s
  handoffs : ∀ s handoffs, f { s with handoffs := handoffs } = f s

section Route
variable {γ : Type} {f : State → γ} (h : IgnoresRoute f)
include h

theorem keeps_createHandoff (harness : HarnessResult) (reason : String) :
    (createHandoff o harness reason).Keeps f := by
  intro s
  exact (Step.Keeps.andThen (keeps_call (fun s => h.calls s _) _) fun _ =>
    Step.Keeps.andThen (fun t => h.handoffs t _) fun _ => keeps_return _) s

theorem keeps_startReview (harness : HarnessResult) (guidance : UsageGuidance) :
    (startReview o a harness guidance).Keeps f :=
  Step.Keeps.andThen (keeps_call (fun s => h.calls s _) _) fun _ =>
    Step.Keeps.andThen (fun t => h.reviews t _) fun _ => keeps_return _

theorem keeps_routeRuntime (harness : HarnessResult) (guidance : Option UsageGuidance)
    (reason : Option String) : (routeRuntime o a harness guidance reason).Keeps f := by
  unfold routeRuntime
  split
  · split
    · exact keeps_createHandoff o h harness _
    · exact keeps_startReview o a h harness _
  · split
    · exact keeps_createHandoff o h harness _
    · split
      · exact keeps_createHandoff o h harness _
      · exact keeps_return _

end Route

theorem keepsWaiting_routeRuntime (harness : HarnessResult) (guidance : Option UsageGuidance)
    (reason : Option String) : (routeRuntime o a harness guidance reason).Keeps waits :=
  keeps_routeRuntime o a ⟨fun _ _ => rfl, fun _ _ => rfl, fun _ _ => rfl⟩ harness guidance reason

theorem keepsWaiting_routeFinal (harness : HarnessResult) :
    (routeFinal o a harness).Keeps waits := by
  have blocks : (updateContext block).Keeps waits := keeps_updateContext fun _ => rfl
  intro s
  unfold routeFinal
  dsimp only
  split
  · split
    · exact (blocks.andThen fun _ => keepsWaiting_routeRuntime o a harness none none) s
    · exact ((keepsWaiting_routeRuntime o a harness _ none).andThen fun _ =>
        blocks.andThen fun _ => keeps_return _) s
  · have escalates : (updateContext (escalated harness)).Keeps waits := by
      refine keeps_updateContext fun ctx => ?_
      unfold escalated
      dsimp only
      split
      · rfl
      · rfl
    exact (escalates.andThen fun _ t => keepsWaiting_routeRuntime o a harness _ none t) s
  · exact keepsWaiting_routeRuntime o a harness _ _ s

theorem keepsWaiting_finish (performed : Performed) (stage : Option String)
    (result : HarnessResult) :
    (finish o a performed stage result).Keeps waits :=
  (keepsWaiting_routeFinal o a result).andThen fun _ _ => rfl

theorem keepsWaiting_harness (state : RetryState) (required timedOut : Bool)
    (toolFailure : Option ToolFailure) (functions : List (List Char)) (output : Output) :
    (harness u config a state required timedOut toolFailure functions output).Keeps waits := by
  intro s
  rw [harness_state]

theorem keepsWaiting_timeoutResult (state : RetryState) (performed : Performed) (stage : String) :
    (timeoutResult u config o a state performed stage).Keeps waits :=
  (keepsWaiting_harness u config a state false true none [] .absent).andThen fun _ =>
    keepsWaiting_finish o a performed _ _

theorem keepsWaiting_toolFailureResult (state : RetryState) (performed : Performed)
    (kind : Option ToolFailureKind) (retryable : Bool) :
    (toolFailureResult u config o a state performed kind retryable).Keeps waits :=
  (keepsWaiting_harness u config a state false false _ [] .absent).andThen fun _ =>
    keepsWaiting_finish o a performed _ _

theorem keepsWaiting_verifyRound (state : RetryState) (toolFailure : Option ToolFailure) :
    (verifyRound u config a state toolFailure).Keeps waits :=
  fun s => keepsWaiting_harness u config a state _ false toolFailure _ _ s

theorem keepsWaiting_fallback (state : RetryState) (performed : Performed) :
    (fallback u config o a state performed).Keeps waits :=
  (keepsWaiting_verifyRound u config a state none).andThen fun _ =>
    keepsWaiting_finish o a performed _ _

theorem keepsWaiting_rounds (n : Nat) (state : RetryState) (performed : Performed)
    (toolFailure : Option ToolFailure) :
    (rounds u config o a n state performed toolFailure).Keeps waits := by
  induction n generalizing state performed toolFailure with
  | zero => exact keepsWaiting_fallback u config o a state performed
  | succ n ih =>
      refine (keepsWaiting_verifyRound u config a state toolFailure).andThen fun result s => ?_
      dsimp only
      split
      · split
        · exact keepsWaiting_fallback u config o a _ performed s
        · have kept := keepsWaiting_retryRetrieval u config o a s
          split
          · next t ended =>
              rw [ended] at kept
              exact (ih _ _ none t).trans kept
          · next stage t ended =>
              rw [ended] at kept
              exact (keepsWaiting_timeoutResult u config o a _ _ stage t).trans kept
          · next kind retryable t ended =>
              rw [ended] at kept
              exact (keepsWaiting_toolFailureResult u config o a _ _ kind retryable t).trans kept
          · next failure t _ _ ended =>
              rw [ended] at kept
              exact kept
      · split
        · exact keepsWaiting_fallback u config o a _ performed s
        · have kept := keepsWaiting_retryGeneration config o s
          split
          · next t ended =>
              rw [ended] at kept
              exact (ih _ _ none t).trans kept
          · next stage t ended =>
              rw [ended] at kept
              exact (keepsWaiting_timeoutResult u config o a _ _ stage t).trans kept
          · next failure t _ ended =>
              rw [ended] at kept
              exact kept
      · exact keepsWaiting_finish o a performed none result s

theorem keepsWaiting_run : (run u config o a).Keeps waits :=
  keepsWaiting_rounds u config o a 3 _ _ _

end Stages

/-! ### What the harness passes -/

section Pass
variable {u : Unicode} {config : SafetyRules}

theorem align_calm {safety : SafetyAssessment} (guidance : UsageGuidance)
    (calm : safety.riskLevel ≠ .danger) : config.align safety guidance = .ok () := by
  have other : (safety.riskLevel != .danger) = true := bne_iff_ne.2 calm
  unfold SafetyRules.align
  rw [if_pos other]
  rfl

theorem safetyIsConsistent_calm {safety : SafetyAssessment} (guidance : Option UsageGuidance)
    (calm : safety.riskLevel ≠ .danger) :
    safetyIsConsistent config (some safety) guidance = .ok true := by
  cases guidance with
  | none => rfl
  | some guidance =>
      unfold safetyIsConsistent
      dsimp only
      rw [align_calm guidance calm]

/-- A chunk of the product, as the comparison of the harness sees it. -/
structure Fits (u : Unicode) (product : ProductContext) (chunk : RetrievedChunk) : Prop where
  named : (normalizeModelCode u chunk.modelCode).isSome = true
  model : normalizeModelCode u chunk.modelCode = normalizeModelCode u (some product.modelCode)
  family : ∀ family, inferProductFamily u chunk.modelCode = some family →
    family = product.productFamily

theorem matchChunk_fits {product : ProductContext} {chunk : RetrievedChunk}
    (fits : Fits u product chunk) (result : ProductMatchResult) :
    matchChunk u product result chunk =
      .ok { result with acceptedChunkIds := result.acceptedChunkIds ++ [chunk.chunkId] } := by
  have ⟨code, found⟩ := Option.isSome_iff_exists.1 fits.named
  have same : normalizeModelCode u (some product.modelCode) = some code := fits.model ▸ found
  have family :
      (inferProductFamily u chunk.modelCode).any (· != product.productFamily) = false := by
    cases inferred : inferProductFamily u chunk.modelCode with
    | none => rfl
    | some family =>
        rw [fits.family family inferred]
        exact bne_self_eq_false _
  unfold matchChunk
  simp only [found, same, family, Option.isNone_some, bne_self_eq_false, Bool.or_false,
    Bool.false_eq_true, if_false]
  rfl

theorem foldlM_matchChunk {product : ProductContext} {chunks : List RetrievedChunk}
    (fit : ∀ chunk ∈ chunks, Fits u product chunk) (result : ProductMatchResult) :
    chunks.foldlM (matchChunk u product) result =
      .ok { result with
        acceptedChunkIds := result.acceptedChunkIds ++ chunks.map (·.chunkId) } := by
  induction chunks generalizing result with
  | nil => simp only [List.foldlM_nil, List.map_nil, List.append_nil]; rfl
  | cons chunk rest ih =>
      rw [List.foldlM_cons, matchChunk_fits (fit chunk List.mem_cons_self)]
      refine (ih (fun other member => fit other (List.mem_cons_of_mem _ member)) _).trans ?_
      rw [List.map_cons, List.append_assoc]
      rfl

/-- Evidence that fits the product is accepted, all of it. -/
theorem matchProduct_fits {product : ProductContext} {chunks : List RetrievedChunk}
    (fit : ∀ chunk ∈ chunks, Fits u product chunk) :
    matchProduct u product chunks [] =
      .ok ⟨true, true, true, chunks.map (·.chunkId), [], []⟩ := by
  unfold matchProduct
  rw [foldlM_matchChunk fit]
  rfl

/-- Issues about chunks with an id of a possible length. -/
theorem mapM_issue (chunks : List RetrievedChunk) (message : String)
    (stated : 1 ≤ (strip message).length ∧ (strip message).length ≤ 500)
    (named : ∀ chunk ∈ chunks,
      1 ≤ (strip chunk.chunkId).length ∧ (strip chunk.chunkId).length ≤ 200)
    (code : IssueCode) :
    ∃ issues, chunks.mapM (fun chunk => issue code message true chunk.chunkId) = .ok issues ∧
      ∀ found ∈ issues, found.code = code := by
  induction chunks with
  | nil => exact ⟨[], rfl, fun found member => absurd member List.not_mem_nil⟩
  | cons chunk rest ih =>
      have ⟨issues, mapped, codes⟩ :=
        ih fun other member => named other (List.mem_cons_of_mem _ member)
      have first : issue code message true (some chunk.chunkId) =
          .ok ⟨code, strip message, true, some (strip chunk.chunkId)⟩ := by
        unfold issue
        dsimp only [Option.map_some, Option.all_some]
        rw [if_pos ⟨stated.1, stated.2, decide_eq_true (named chunk List.mem_cons_self)⟩]
      refine ⟨⟨code, strip message, true, some (strip chunk.chunkId)⟩ :: issues, ?_, ?_⟩
      · rw [List.mapM_cons, first, mapped]
        rfl
      · intro found member
        cases List.mem_cons.1 member with
        | inl same => rw [same]
        | inr later => exact codes found later

/-- What a request needs to be passed. -/
structure Passes (u : Unicode) (config : SafetyRules) (r : Request) : Prop where
  functions : r.requiredFunctions = []
  fit : ∀ chunk ∈ r.evidenceChunks, chunk.approved = true → Fits u r.product chunk
  named : ∀ chunk ∈ r.evidenceChunks, 1 ≤ (strip chunk.chunkId).length ∧
    (strip chunk.chunkId).length ≤ 200
  present : r.evidenceRequired = true → ∃ chunk ∈ r.evidenceChunks, chunk.approved = true
  safe : safetyIsConsistent config r.safetyAssessment r.guidance = .ok true
  schema : schemaIsValid r.guidance r.output = true

theorem verifyEvidence_passes {r : Request} (passes : Passes u config r) :
    ∃ verification, verifyEvidence u config r = .ok verification ∧ verification.decision = .pass ∧
      verification.acceptedEvidenceChunkIds =
        (r.evidenceChunks.filter (·.approved)).map (·.chunkId) ∧
      ∀ found ∈ verification.issues, found.code = .unverifiedEvidence := by
  have fit : ∀ chunk ∈ r.evidenceChunks.filter (·.approved), Fits u r.product chunk := by
    intro chunk member
    have ⟨listed, approved⟩ := List.mem_filter.1 member
    exact passes.fit chunk listed approved
  have ⟨issues, mapped, codes⟩ := mapM_issue (r.evidenceChunks.filter (!·.approved))
    "Evidence is not approved or runtime-eligible for customer guidance."
    (by decide) (fun chunk member => passes.named chunk (List.mem_filter.1 member).1)
    .unverifiedEvidence
  have present : (r.evidenceRequired &&
      ((r.evidenceChunks.filter (·.approved)).map (·.chunkId)).isEmpty) = false := by
    cases required : r.evidenceRequired with
    | false => rfl
    | true =>
        have ⟨chunk, listed, approved⟩ := passes.present required
        have kept : chunk ∈ r.evidenceChunks.filter (·.approved) :=
          List.mem_filter.2 ⟨listed, approved⟩
        exact List.isEmpty_eq_false_iff.2 (List.ne_nil_of_mem (List.mem_map_of_mem kept))
  have decided (found : List VerificationIssue) :
      Harness.decide r ⟨true, true, true,
        (r.evidenceChunks.filter (·.approved)).map (·.chunkId), [], []⟩ found true true =
          .pass := by
    unfold Harness.decide
    simp only [Bool.not_not, present, Bool.not_true, Bool.false_eq_true, if_false, Bool.and_self,
      Bool.and_false]
  unfold verifyEvidence
  simp only [List.partition_eq_filter_filter, Function.comp_def, mapped, passes.functions,
    matchProduct_fits fit, bind, Except.bind, issueIf, Bool.not_not, present, passes.safe,
    passes.schema, Bool.not_true, Bool.false_eq_true, if_false, List.append_nil, decided]
  exact ⟨_, rfl, rfl, rfl, codes⟩

/-- An approved product whose request passes is passed, at once. -/
theorem run_passes {r : Request} (state : RetryState) (approved : r.product.runtimeApproved = true)
    (inTime : r.timedOut = false) (working : r.toolFailure = none) (passes : Passes u config r) :
    ∃ result, Harness.run u config r state = .ok result ∧ result.decision = .pass ∧
      result.shouldEscalate = false ∧
      result.verification.acceptedEvidenceChunkIds =
        (r.evidenceChunks.filter (·.approved)).map (·.chunkId) ∧
      ∀ found ∈ result.verification.issues, found.code = .unverifiedEvidence := by
  have ⟨verification, verified, decided, accepted, codes⟩ := verifyEvidence_passes passes
  have whole : verify u config r = .ok verification := by
    unfold verify
    rw [inTime, if_neg Bool.false_ne_true, approved, Bool.not_true, if_neg Bool.false_ne_true,
      working]
    exact verified
  refine ⟨resultOf r state verification, ?_, ?_⟩
  · unfold Harness.run
    rw [whole]
    rfl
  · have plain :
        resultOf r state verification = ⟨.pass, verification, state, none, false, false⟩ := by
      unfold resultOf
      rw [inTime, if_neg Bool.false_ne_true, working, Option.isSome_none, Bool.false_and,
        if_neg Bool.false_ne_true, decided]
      rfl
    rw [plain]
    exact ⟨rfl, rfl, accepted, codes⟩

/-- A product that is not approved is escalated. -/
theorem escalate_of_unapproved {r : Request} {state : RetryState} {result : HarnessResult}
    (unapproved : r.product.runtimeApproved = false) (working : r.toolFailure = none)
    (judged : Harness.run u config r state = .ok result) : result.decision = .escalate := by
  have ⟨verification, verified, same⟩ := map_eq_ok.1 judged
  have decided : verification.decision = .escalate := by
    unfold verify at verified
    split at verified
    · have ⟨found, _, closes⟩ := bind_eq_ok.1 verified
      cases closes
      rfl
    · rw [unapproved, Bool.not_false, if_pos rfl] at verified
      have ⟨found, _, rest⟩ := bind_eq_ok.1 verified
      have ⟨safe, _, closes⟩ := bind_eq_ok.1 rest
      cases closes
      rfl
  rw [← same]
  unfold resultOf
  split
  · rfl
  · rw [working, Option.isSome_none, Bool.false_and, if_neg Bool.false_ne_true, decided]
    rfl

end Pass

/-! ### Runs over a context that waits -/

/-- What the runtime sees of a run that waits: no search was made, and the guidance holds the
customer up. -/
structure Waiting (s : State) : Prop where
  awaits : s.ctx.awaitingCustomerInput = true
  caution : ∃ safety, s.ctx.safetyAssessment = some safety ∧ safety.riskLevel = .caution
  guided : s.ctx.usageGuidance.isSome = true
  unsearched : s.capture = ⟨[], [], []⟩

/-- A request without a function or an output of its own, and without a failed tool. -/
structure Plain (a : Args) : Prop where
  functions : a.requiredFunctions = []
  output : a.output = .absent
  toolFailure : a.toolFailure = none

section Waiting
variable {u : Unicode} {config : SafetyRules} {o : Outside} {a : Args} {s t : State}

/-- A context that waits shows the harness no evidence. -/
theorem evidenceForHarness_waiting (waiting : Waiting s) : evidenceForHarness s = [] := by
  unfold evidenceForHarness
  rw [waiting.unsearched]
  rfl

/-- Over a context that waits the harness passes an approved product and escalates any other. -/
theorem decision_waiting (waiting : Waiting s) (plain : Plain a) {result : HarnessResult}
    (judged : verifyRound u config a ⟨0, 0⟩ none s = (.ok result, t)) :
    t = s ∧ (result.decision = .pass ∨ result.decision = .escalate) ∧
      (result.shouldEscalate = true ↔ result.decision = .escalate) := by
  have ⟨safety, assessed, caution⟩ := waiting.caution
  unfold verifyRound harness at judged
  dsimp only at judged
  rw [plain.functions, plain.output, evidenceForHarness_waiting waiting, ite_self] at judged
  have calm : isDanger s.ctx = false := by
    unfold isDanger
    rw [assessed, Option.any_some, caution]
    rfl
  have unrequired : evidenceRequired s.ctx = false := by
    unfold evidenceRequired
    rw [waiting.awaits]
    rfl
  split at judged
  · next found ran =>
      have ⟨same, state⟩ := Prod.mk.inj judged
      have equal : found = result := Except.ok.inj same
      rw [equal] at ran
      refine ⟨state.symm, ?_, (honest_run ran).escalates⟩
      cases approved : a.product.runtimeApproved with
      | false => exact .inr (escalate_of_unapproved approved rfl ran)
      | true =>
          have passes : Passes u config ⟨a.product, [], s.ctx.safetyAssessment, s.ctx.usageGuidance,
              [], .absent, false, evidenceRequired s.ctx, none⟩ := by
            refine ⟨rfl, fun _ member => absurd member List.not_mem_nil,
              fun _ member => absurd member List.not_mem_nil, fun required => ?_, ?_, ?_⟩
            · rw [unrequired] at required
              cases required
            · rw [assessed]
              exact safetyIsConsistent_calm _ (by rw [caution]; nofun)
            · unfold schemaIsValid
              rw [waiting.guided]
              rfl
          have ⟨other, passed, decided, _⟩ := run_passes ⟨0, 0⟩ approved rfl rfl passes
          rw [ran] at passed
          exact .inl (Except.ok.inj passed ▸ decided)
  · cases (Prod.mk.inj judged).1

/-- The runtime leaves the assessment of a context that waits. -/
theorem run_waiting (waiting : Waiting s) (quiet : s.Quiet) (plain : Plain a)
    {result : ReliabilityResult} (ran : run u config o a s = (.ok result, t)) :
    t.ctx.safetyAssessment = s.ctx.safetyAssessment := by
  unfold run at ran
  rw [plain.toolFailure] at ran
  unfold rounds at ran
  have ⟨harness, s', judged, rest⟩ := Step.andThen_eq_ok.1 ran
  have ⟨same, decided, escalates⟩ := decision_waiting waiting plain judged
  subst same
  have finished : finish o a ⟨false, false⟩ none harness s' = (.ok result, t) := by
    cases decided with
    | inl pass =>
        rw [pass] at rest
        exact rest
    | inr escalate =>
        rw [escalate] at rest
        exact rest
  have ⟨routed, t', route, done⟩ := Step.andThen_eq_ok.1 finished
  have ⟨_, isRouted⟩ := routeFinal_eq_ok quiet escalates route
  rw [← (Prod.mk.inj done).2]
  exact isRouted.safety

end Waiting

end WaterCare.Ai.Reliability
