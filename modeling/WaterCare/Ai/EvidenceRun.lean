import WaterCare.Ai.AutomaticGuidance
import WaterCare.Ai.EvidenceGate

/-!
The evidence of a whole run of the router: the pipeline, the reliability runtime after it, over
either transport of the retrieval, and the public result. The stages of the retrieval and of the
generation are parameters of a run here, so that one can say in which states they are entered.
-/

namespace WaterCare.Ai.Reliability
open Store Analysis Machine Py Harness

/-! ### A run over given stages -/

section Stages
variable (u : Unicode) (config : SafetyRules) (o : Outside) (a : Args)
  (retrieval generation : Step Unit)

def retryGenerationBy : Step Unit :=
  (callUnit o.token).andThen fun _ =>
    (updateContext fun ctx => { ctx with retryCount := 1 }).andThen fun _ =>
      (deadlineScope o generation).andThen fun _ => deadlineScope o (validationStage o)

def retryRetrievalBy : Step Unit :=
  (callUnit o.token).andThen fun _ => (beginAttempt a).andThen fun _ =>
    (updateContext fun ctx => { ctx with retryCount := 1 }).andThen fun _ =>
      (deadlineScope o retrieval).andThen fun _ => fun s =>
        if s.ctx.evidenceReferences.isEmpty then (.ok (), s) else retryGenerationBy o generation s

/-- `rounds`, over given stages. -/
def roundsBy : Nat → RetryState → Performed → Option ToolFailure → Step ReliabilityResult
  | 0, state, performed, _ => fallback u config o a state performed
  | n + 1, state, performed, toolFailure =>
      (verifyRound u config a state toolFailure).andThen fun result s =>
        match result.decision with
        | .retryRetrieval =>
            if performed.retrieval || a.service.isNone then
              fallback u config o a result.retryState performed s
            else
              let performed := { performed with retrieval := true }
              match retryRetrievalBy o a retrieval generation s with
              | (.ok (), s) => roundsBy n result.retryState performed none s
              | (.error (.stageTimeout stage), s) =>
                  timeoutResult u config o a result.retryState performed stage s
              | (.error (.toolError kind retryable), s) =>
                  toolFailureResult u config o a result.retryState performed kind retryable s
              | (.error failure, s) => (.error failure, s)
        | .retryGeneration =>
            if performed.generation then fallback u config o a result.retryState performed s
            else
              let performed := { performed with generation := true }
              match retryGenerationBy o generation s with
              | (.ok (), s) => roundsBy n result.retryState performed none s
              | (.error (.stageTimeout stage), s) =>
                  timeoutResult u config o a result.retryState performed stage s
              | (.error failure, s) => (.error failure, s)
        | _ => finish o a performed none result s

def runBy : Step ReliabilityResult :=
  roundsBy u config o a retrieval generation 3 ⟨0, 0⟩ ⟨false, false⟩ a.toolFailure

theorem rounds_eq_by (n : Nat) (state : RetryState) (performed : Performed)
    (failure : Option ToolFailure) :
    roundsBy u config o a (retrievalStage u o a) (generationStage config o) n state performed
      failure = rounds u config o a n state performed failure := by
  induction n generalizing state performed failure with
  | zero => rfl
  | succ n ih =>
      simp only [roundsBy, rounds, ih]
      rfl

/-- The runtime of the repository is the one over its own stages. -/
theorem run_eq_by :
    runBy u config o a (retrievalStage u o a) (generationStage config o) = run u config o a :=
  rounds_eq_by u config o a 3 ⟨0, 0⟩ ⟨false, false⟩ a.toolFailure

end Stages

/-! ### The states in which the stages are entered -/

/-- Nothing was captured since the attempt began. -/
def Fresh (s : State) : Prop := s.capture.forwarded = [] ∧ s.capture.rejected = []

section Agree
variable {α β : Type} {u : Unicode} {config : SafetyRules} {o : Outside} {a : Args}
  {retrieval generation : Step Unit} {s t : State}

theorem Step.andThen_agree {first first' : Step α} {next next' : α → Step β}
    (h : first' s = first s)
    (h' : ∀ x t, first s = (.ok x, t) → next' x t = next x t) :
    (first'.andThen next') s = (first.andThen next) s := by
  unfold Step.andThen
  rw [h]
  cases ran : first s with
  | mk answer t =>
      cases answer with
      | error failure => rfl
      | ok x => exact h' x t ran

theorem deadlineScope_agree {body body' : Step Unit}
    (h : body' { s with calls := s.calls + 1 } = body { s with calls := s.calls + 1 }) :
    deadlineScope o body' s = deadlineScope o body s := by
  refine Step.andThen_agree rfl fun x t ran => ?_
  rw [callUnit_eq_ok ran]
  exact Step.andThen_agree h fun _ _ _ => rfl

theorem Step.Keeps.eq_ok {γ : Type} {f : State → γ} {step : Step α} {x : α} (keeps : step.Keeps f)
    (ran : step s = (.ok x, t)) : f t = f s := by
  have kept := keeps s
  rw [ran] at kept
  exact kept

variable (enters : ∀ s, Gated u o a.product s → generation s = generationStage config o s)
  (begins : ∀ s, Fresh s → retrieval s = retrievalStage u o a s)
include enters

theorem generation_agree (gated : Gated u o a.product s) :
    deadlineScope o generation s = deadlineScope o (generationStage config o) s :=
  deadlineScope_agree (enters _ (gated_congr (t := s) rfl gated))

theorem retryGeneration_agree (gated : Gated u o a.product s) :
    retryGenerationBy o generation s = retryGeneration config o s := by
  refine Step.andThen_agree rfl fun _ s₁ token => ?_
  refine Step.andThen_agree rfl fun _ s₂ updated => ?_
  refine Step.andThen_agree (generation_agree enters ?_) fun _ _ _ => rfl
  rw [← (Prod.mk.inj updated).2, callUnit_eq_ok token]
  exact gated_congr (t := s) rfl gated

include begins

/-- A retrieval is only tried again on an empty capture. -/
theorem retryRetrieval_agree (selects : Selects o) (guarded : a.service ≠ some .direct)
    (captured : a.captured = true) :
    retryRetrievalBy o a retrieval generation s = retryRetrieval u config o a s := by
  refine Step.andThen_agree rfl fun _ s₁ token => ?_
  refine Step.andThen_agree rfl fun _ s₂ began => ?_
  refine Step.andThen_agree rfl fun _ s₃ updated => ?_
  have cleared : s₂.capture = ⟨[], [], s₁.capture.allRejected⟩ := by
    rw [← (Prod.mk.inj began).2, captured]
    rfl
  have fresh : s₃.capture = s₂.capture := by
    rw [← (Prod.mk.inj updated).2]
  have empty : Screened u o a.product s₃ := by
    refine ⟨?_, ?_⟩
    · rw [fresh, cleared]
      exact fun _ member => absurd member List.not_mem_nil
    · rw [fresh, cleared]
      exact fun _ member => absurd member List.not_mem_nil
  refine Step.andThen_agree (deadlineScope_agree (begins _ ?_)) fun _ s₄ retrieved => ?_
  · show s₃.capture.forwarded = [] ∧ s₃.capture.rejected = []
    rw [fresh, cleared]
    exact ⟨rfl, rfl⟩
  · split
    · rfl
    · exact retryGeneration_agree enters
        (deadlineScope_gated selects guarded s₃ s₄ () empty retrieved)

theorem rounds_agree (selects : Selects o) (guarded : a.service ≠ some .direct)
    (captured : a.captured = a.service.isSome) (n : Nat) (state : RetryState)
    (performed : Performed) (failure : Option ToolFailure) (gated : Gated u o a.product s) :
    roundsBy u config o a retrieval generation n state performed failure s =
      rounds u config o a n state performed failure s := by
  induction n generalizing state performed failure s with
  | zero => rfl
  | succ n ih =>
      refine Step.andThen_agree rfl fun result s₁ judged => ?_
      rw [(verifyRound_eq_ok judged).1]
      dsimp only
      cases decided : result.decision with
      | retryRetrieval =>
          dsimp only
          by_cases stopped : (performed.retrieval || a.service.isNone) = true
          · rw [if_pos stopped, if_pos stopped]
          · rw [if_neg stopped, if_neg stopped]
            have served : a.captured = true := by
              rw [captured]
              cases served : a.service with
              | some service => rfl
              | none =>
                  rw [served] at stopped
                  exact absurd (Bool.or_true _) stopped
            rw [retryRetrieval_agree enters begins selects guarded served]
            cases ran : retryRetrieval u config o a s with
            | mk answer t =>
                cases answer with
                | ok x =>
                    exact ih _ _ none
                      (retryRetrieval_gated selects guarded s t x gated.screened ran)
                | error failure => cases failure <;> rfl
      | retryGeneration =>
          dsimp only
          by_cases stopped : performed.generation = true
          · rw [if_pos stopped, if_pos stopped]
          · rw [if_neg stopped, if_neg stopped, retryGeneration_agree enters gated]
            have kept : Gated u o a.product (retryGeneration config o s).2 :=
              retryGeneration_gated s gated
            cases ran : retryGeneration config o s with
            | mk answer t =>
                rw [ran] at kept
                cases answer with
                | ok x => exact ih _ _ none kept
                | error failure => cases failure <;> rfl
      | pass => rfl
      | humanReview => rfl
      | escalate => rfl

end Agree

/-! ### Runs that do not search -/

section Unsearched
variable {u : Unicode} {config : SafetyRules} {o : Outside} {a : Args}

/-- The service behind the guard is out of reach: the product is not approved, or there is no
service. -/
def Unsearched (a : Args) : Prop :=
  a.service ≠ some .direct ∧ (a.product.runtimeApproved = false ∨ a.service = none)

variable (search : Nat → Except Failure (List RetrievedChunk))

theorem attempts_unsearched (barred : a.product.runtimeApproved = false) (n : Nat) :
    attempts u { o with search := search } a .guarded n = attempts u o a .guarded n := by
  have single : attempt u { o with search := search } a .guarded = attempt u o a .guarded := by
    unfold attempt searchWith guardedSearch
    rw [barred]
    rfl
  induction n with
  | zero => exact single
  | succ n ih =>
      funext s
      simp only [attempts, single, ih]

theorem retrievalStage_unsearched (h : Unsearched a) :
    retrievalStage u { o with search := search } a = retrievalStage u o a := by
  funext s
  unfold retrievalStage
  cases served : a.service with
  | none => rfl
  | some service =>
      cases service with
      | direct => exact absurd served h.1
      | guarded =>
          have barred : a.product.runtimeApproved = false := by
            cases h.2 with
            | inl barred => exact barred
            | inr none =>
                rw [served] at none
                cases none
          dsimp only
          rw [attempts_unsearched search barred]
          rfl

theorem roundsBy_search (retrieval generation : Step Unit) (n : Nat) (state : RetryState)
    (performed : Performed) (failure : Option ToolFailure) :
    roundsBy u config { o with search := search } a retrieval generation n state performed failure =
      roundsBy u config o a retrieval generation n state performed failure := by
  induction n generalizing state performed failure with
  | zero => rfl
  | succ n ih =>
      simp only [roundsBy, ih]
      rfl

theorem run_unsearched (h : Unsearched a) :
    run u config { o with search := search } a = run u config o a := by
  have same : runBy u config { o with search := search } a
      (retrievalStage u { o with search := search } a) (generationStage config o) =
        runBy u config o a (retrievalStage u o a) (generationStage config o) := by
    rw [retrievalStage_unsearched search h]
    exact roundsBy_search search _ _ 3 ⟨0, 0⟩ ⟨false, false⟩ a.toolFailure
  rw [← run_eq_by u config o a, ← same]
  exact (run_eq_by u config { o with search := search } a).symm

end Unsearched

end WaterCare.Ai.Reliability

namespace WaterCare.Ai.Pipeline
open Store Analysis Machine Py SymptomStructurer Clarification Harness Reliability

/-! ### The whole run -/

section Whole
variable (u : Unicode) (config : SafetyRules) (o : Outside) (a : Args) (nfc : Text → Text)
  (wording : Wording) (analysed : Analysed) (previousAnswers : List PreviousAnswer)
  (retrieval generation : Step Unit)

/-- `singleRag`, over given stages. -/
def singleRagBy : Step Clarified :=
  if analysed.safety.riskLevel = .danger then
    (deadlineScope o generation).andThen fun _ =>
      (deadlineScope o (validationStage o)).andThen fun _ s =>
        (.ok ⟨analysed.symptom, [], []⟩, s)
  else
    let clarified := missingFieldsStage nfc wording analysed.symptom previousAnswers
    (deadlineScope o fun s => (.ok (), s)).andThen fun _ =>
      if shouldWaitForCustomerInput nfc analysed.safety.riskLevel clarified.symptom.symptomType
          clarified.missingFields previousAnswers then
        (callUnit o.token).andThen fun _ =>
          (questionnairePendingStage previousAnswers clarified).andThen fun clarified =>
            (callUnit o.token).andThen fun _ =>
              (deadlineScope o (validationStage o)).andThen fun _ s => (.ok clarified, s)
      else
        (deadlineScope o retrieval).andThen fun _ =>
          (deadlineScope o generation).andThen fun _ =>
            (deadlineScope o (validationStage o)).andThen fun _ s => (.ok clarified, s)

/-- The questions that a run has come to when its retrieval fails. -/
def clarifiedBefore : Clarified :=
  if analysed.safety.riskLevel = .danger then ⟨analysed.symptom, [], []⟩
  else missingFieldsStage nfc wording analysed.symptom previousAnswers

inductive Transport
  | direct
  | mcp
  deriving DecidableEq, Repr

/-- The arguments of the runtime after `McpEvidenceSearchError`. -/
def failedWith (kind : ToolFailureKind) (retryable : Bool) : Args :=
  { a with toolFailure := some ⟨.searchOfficialEvidence, kind, retryable⟩ }

/-- `run_pipeline` from the safety check on, over either transport. -/
def judgedBy (transport : Transport) : Step (Clarified × ReliabilityResult) := fun s =>
  match singleRagBy o nfc wording analysed previousAnswers retrieval generation s with
  | (.ok clarified, s) => ((runBy u config o a retrieval generation).andThen fun reliability s =>
      (.ok (clarified, reliability), s)) s
  | (.error (.toolError (some kind) retryable), s) =>
      match transport with
      | .direct => (.error (.toolError (some kind) retryable), s)
      | .mcp =>
          ((runBy u config o (failedWith a kind retryable) retrieval generation).andThen
            fun reliability s =>
              (.ok (clarifiedBefore nfc wording analysed previousAnswers, reliability), s)) s
  | (.error failure, s) => (.error failure, s)

/-- The run over the stages of the repository. -/
def judged (transport : Transport) : Step (Clarified × ReliabilityResult) :=
  judgedBy u config o a nfc wording analysed previousAnswers (retrievalStage u o a)
    (generationStage config o) transport

theorem singleRag_eq_by : singleRagBy o nfc wording analysed previousAnswers (retrievalStage u o a)
    (generationStage config o) =
      singleRag config u o a nfc wording analysed previousAnswers := rfl

end Whole

/-- Over the direct transport this is `Router.runPipeline`. -/
theorem runPipeline_judged (r : Router) (modelCode : List Char) (analysed : Analysed)
    (request : Request) :
    r.runPipeline modelCode analysed request =
      match judged r.u r.config (r.outside modelCode analysed request) (r.args modelCode) r.nfc
          r.wording analysed request.previousAnswers .direct
          (.start analysed.context ⟨[], [], []⟩) with
      | (.error failure, _) => .error failure
      | (.ok (clarified, reliability), s) =>
          .ok ⟨(r.product modelCode).modelCode, clarified, reliability, s.ctx⟩ := by
  unfold judged judgedBy Router.runPipeline Router.pipeline
  rw [singleRag_eq_by, run_eq_by]
  cases piped : singleRag r.config r.u (r.outside modelCode analysed request) (r.args modelCode)
    r.nfc r.wording analysed request.previousAnswers (.start analysed.context ⟨[], [], []⟩) with
  | mk answer s =>
      cases answer with
      | ok clarified =>
          dsimp only
          unfold Step.andThen
          cases ran : Reliability.run r.u r.config (r.outside modelCode analysed request)
            (r.args modelCode) s with
          | mk answer t => cases answer <;> rfl
      | error failure =>
          cases failure with
          | toolError kind retryable => cases kind <;> rfl
          | stageTimeout stage => rfl
          | cancelled => rfl
          | raised retryable => rfl

section Gate
variable {u : Unicode} {config : SafetyRules} {o : Outside} {a : Args} {nfc : Text → Text}
  {wording : Wording} {analysed : Analysed} {previousAnswers : List PreviousAnswer}
  {retrieval generation : Step Unit} {transport : Transport} {s t : State}

theorem clean_congr {product : ProductContext} (same : evidence s = evidence t)
    (clean : Clean u o product t) : Clean u o product s :=
  ⟨screened_congr (Prod.mk.inj same).2 clean.screened,
    (Prod.mk.inj same).1.trans clean.unreferenced⟩

theorem keeps_check : (deadlineScope o fun s => (.ok (), s)).Keeps evidence :=
  keeps_deadlineScope o (fun _ => rfl) fun _ => rfl

/-- The pipeline enters the retrieval on an empty capture, and the generation on gated evidence. -/
theorem singleRag_agree (selects : Selects o) (guarded : a.service ≠ some .direct)
    (enters : ∀ s, Gated u o a.product s → generation s = generationStage config o s)
    (begins : ∀ s, Fresh s → retrieval s = retrievalStage u o a s) (fresh : Fresh s)
    (clean : Clean u o a.product s) :
    singleRagBy o nfc wording analysed previousAnswers retrieval generation s =
      singleRag config u o a nfc wording analysed previousAnswers s := by
  rw [← singleRag_eq_by]
  unfold singleRagBy
  by_cases danger : analysed.safety.riskLevel = .danger
  · rw [if_pos danger, if_pos danger]
    exact Step.andThen_agree (generation_agree enters clean.gated) fun _ _ _ => rfl
  · rw [if_neg danger, if_neg danger]
    refine Step.andThen_agree rfl fun _ s₁ checked => ?_
    have same : evidence s₁ = evidence s := keeps_check.eq_ok checked
    split
    · rfl
    · refine Step.andThen_agree (deadlineScope_agree (begins _ ?_)) fun _ s₂ retrieved => ?_
      · show s₁.capture.forwarded = [] ∧ s₁.capture.rejected = []
        rw [(Prod.mk.inj same).2]
        exact fresh
      · have gated := deadlineScope_gated selects guarded s₁ s₂ ()
          (clean_congr same clean).screened retrieved
        exact Step.andThen_agree (generation_agree enters gated) fun _ _ _ => rfl

theorem questionnairePending_gated (clarified : Clarified) :
    (questionnairePendingStage previousAnswers clarified).Preserves (Gated u o a.product) := by
  refine gated_of_keeps fun s => ?_
  unfold questionnairePendingStage
  split
  · rfl
  · rfl

/-- However the pipeline ends, the references it leaves are gated. -/
theorem singleRag_gated (selects : Selects o) (guarded : a.service ≠ some .direct)
    (clean : Clean u o a.product s) :
    Gated u o a.product (singleRag config u o a nfc wording analysed previousAnswers s).2 := by
  have token : (callUnit o.token).Preserves (Gated u o a.product) :=
    gated_of_keeps (keeps_call (fun _ => rfl) _)
  have returned (clarified : Clarified) :
      Step.Preserves (Gated u o a.product) fun s => (.ok clarified, s) :=
    fun _ gated => gated
  have validated (clarified : Clarified) :
      ((deadlineScope o (validationStage o)).andThen fun _ s =>
        (.ok clarified, s)).Preserves (Gated u o a.product) :=
    validation_gated.andThen fun _ => returned clarified
  unfold singleRag
  by_cases danger : analysed.safety.riskLevel = .danger
  · rw [if_pos danger]
    exact (generation_gated.andThen fun _ => validated _) s clean.gated
  · rw [if_neg danger]
    have kept := keeps_check (o := o) s
    unfold Step.andThen
    cases checked : deadlineScope o (fun s => (.ok (), s)) s with
    | mk answer s₁ =>
        rw [checked] at kept
        have clean₁ := clean_congr kept clean
        cases answer with
        | error failure => exact clean₁.gated
        | ok x =>
            dsimp only
            unfold afterMissingFields
            split
            · exact (token.andThen fun _ => (questionnairePending_gated _).andThen fun _ =>
                token.andThen fun _ => validated _) s₁ clean₁.gated
            · have gated := deadlineScope_clean (u := u) selects guarded clean₁
              unfold Step.andThen
              cases retrieved : deadlineScope o (retrievalStage u o a) s₁ with
              | mk answer s₂ =>
                  rw [retrieved] at gated
                  cases answer with
                  | error failure => exact gated
                  | ok x => exact (generation_gated.andThen fun _ => validated _) s₂ gated

theorem clean_start (ctx : Context) (none : ctx.evidenceReferences = [])
    (product : ProductContext) : Clean u o product (.start ctx ⟨[], [], []⟩) :=
  ⟨screened_start ctx product, none⟩

/-- A run enters the retrieval on an empty capture only, and the generation on gated evidence. -/
theorem judged_agree (selects : Selects o) (guarded : a.service ≠ some .direct)
    (captured : a.captured = a.service.isSome)
    (enters : ∀ s, Gated u o a.product s → generation s = generationStage config o s)
    (begins : ∀ s, Fresh s → retrieval s = retrievalStage u o a s) (fresh : Fresh s)
    (clean : Clean u o a.product s) :
    judgedBy u config o a nfc wording analysed previousAnswers retrieval generation transport s =
      judged u config o a nfc wording analysed previousAnswers transport s := by
  have gated : Gated u o a.product
      (singleRag config u o a nfc wording analysed previousAnswers s).2 :=
    singleRag_gated selects guarded clean
  unfold judged judgedBy
  rw [singleRag_agree selects guarded enters begins fresh clean, singleRag_eq_by]
  cases piped : singleRag config u o a nfc wording analysed previousAnswers s with
  | mk answer s₁ =>
      rw [piped] at gated
      have again (a' : Args) (same : a'.product = a.product) (served : a'.service = a.service)
          (by_ : a'.captured = a.captured)
          (stage : retrievalStage u o a' = retrievalStage u o a) :
          runBy u config o a' retrieval generation s₁ =
            runBy u config o a' (retrievalStage u o a) (generationStage config o) s₁ := by
        rw [← stage, run_eq_by]
        refine rounds_agree (a := a') ?_ ?_ selects ?_ ?_ 3 _ _ _ ?_
        · rw [same]
          exact enters
        · rw [stage]
          exact begins
        · rw [served]
          exact guarded
        · rw [by_, served]
          exact captured
        · rw [same]
          exact gated
      cases answer with
      | ok clarified =>
          exact Step.andThen_agree (again a rfl rfl rfl rfl) fun _ _ _ => rfl
      | error failure =>
          cases failure with
          | toolError kind retryable =>
              cases kind with
              | none => rfl
              | some kind =>
                  cases transport with
                  | direct => rfl
                  | mcp =>
                      exact Step.andThen_agree
                        (again (failedWith a kind retryable) rfl rfl rfl rfl) fun _ _ _ => rfl
          | stageTimeout stage => rfl
          | cancelled => rfl
          | raised retryable => rfl

/-- The verdict of a run. -/
theorem judged_settled (selects : Selects o) (guarded : a.service ≠ some .direct)
    (clean : Clean u o a.product s) {clarified : Clarified} {reliability : ReliabilityResult}
    (ran : judged u config o a nfc wording analysed previousAnswers transport s =
      (.ok (clarified, reliability), t)) : Settled u o a reliability t := by
  have gated : Gated u o a.product
      (singleRag config u o a nfc wording analysed previousAnswers s).2 :=
    singleRag_gated selects guarded clean
  unfold judged judgedBy at ran
  rw [singleRag_eq_by] at ran
  cases piped : singleRag config u o a nfc wording analysed previousAnswers s with
  | mk answer s₁ =>
      rw [piped] at gated ran
      cases answer with
      | ok clarified =>
          have ⟨found, s₂, finished, returned⟩ := Step.andThen_eq_ok.1 ran
          rw [run_eq_by] at finished
          have same := (Prod.mk.inj (Except.ok.inj (Prod.mk.inj returned).1)).2
          rw [← same, ← (Prod.mk.inj returned).2]
          exact run_settled selects guarded s₁ s₂ found gated finished
      | error failure =>
          cases failure with
          | toolError kind retryable =>
              cases kind with
              | none => cases (Prod.mk.inj ran).1
              | some kind =>
                  cases transport with
                  | direct => cases (Prod.mk.inj ran).1
                  | mcp =>
                      have ⟨found, s₂, finished, returned⟩ := Step.andThen_eq_ok.1 ran
                      have ran' : run u config o (failedWith a kind retryable) s₁ =
                          (.ok found, s₂) := by
                        rw [← run_eq_by]
                        exact finished
                      have same := (Prod.mk.inj (Except.ok.inj (Prod.mk.inj returned).1)).2
                      rw [← same, ← (Prod.mk.inj returned).2]
                      have settled := run_settled (a := failedWith a kind retryable) selects guarded
                        s₁ s₂ found gated ran'
                      refine ⟨settled.gated, fun known => settled.accepted ?_⟩
                      exact ⟨known.captured, known.family, known.registered⟩
          | stageTimeout stage => cases (Prod.mk.inj ran).1
          | cancelled => cases (Prod.mk.inj ran).1
          | raised retryable => cases (Prod.mk.inj ran).1

theorem judgedBy_search (search : Nat → Except Failure (List RetrievedChunk)) :
    judgedBy u config { o with search := search } a nfc wording analysed previousAnswers
        retrieval generation transport =
      judgedBy u config o a nfc wording analysed previousAnswers retrieval generation
        transport := by
  have piped : singleRagBy { o with search := search } nfc wording analysed previousAnswers
      retrieval generation =
        singleRagBy o nfc wording analysed previousAnswers retrieval generation := rfl
  have run_ (a' : Args) : runBy u config { o with search := search } a' retrieval generation =
      runBy u config o a' retrieval generation :=
    roundsBy_search search retrieval generation 3 ⟨0, 0⟩ ⟨false, false⟩ a'.toolFailure
  funext s
  simp only [judgedBy, piped, run_]

/-- Where the service is out of reach, no answer of it is ever read. -/
theorem judged_unsearched (unsearched : Unsearched a)
    (search : Nat → Except Failure (List RetrievedChunk)) :
    judged u config { o with search := search } a nfc wording analysed previousAnswers transport =
      judged u config o a nfc wording analysed previousAnswers transport := by
  unfold judged
  rw [retrievalStage_unsearched search unsearched]
  exact judgedBy_search search

/-- Where the service is out of reach, a run leaves no references. -/
theorem unsearched_references {product : ProductContext}
    (gated : Gated u { o with search := fun _ => .error .cancelled } product t) :
    t.ctx.evidenceReferences = [] := by
  refine List.eq_nil_iff_forall_not_mem.2 fun id member => ?_
  have ⟨chunk, forwarded, _⟩ := gated.references id member
  have ⟨⟨n, chunks, found, _⟩, _⟩ := gated.screened.forwarded chunk forwarded
  cases found

/-- The public references are those of the run, or none where the route falls back. -/
theorem shown_references {result : PipelineResult} {request : Request}
    {shown : SymptomAnalysisResult} (public_ : result.toAnalysisResult request = .ok shown) :
    shown.evidenceReferences = result.context.evidenceReferences ∨
      (shown.status = .fallback ∧ shown.evidenceReferences = []) := by
  have ⟨response, built, same⟩ := toAnalysisResult_eq_ok public_
  have ⟨_, _, _, references, _, _⟩ := analysisResult_eq_ok built
  have routed := ResponseRoutingPolicy.apply_routes response
    (some result.reliability.harnessRuntime.harness.verification.acceptedEvidenceChunkIds)
  rw [← references, same]
  generalize ResponseRoutingPolicy.apply response _ = sent at routed ⊢
  have ⟨_, _⟩ := sent
  cases routed with
  | invalid succeeded => exact .inr ⟨rfl, rfl⟩
  | existing fallback => exact .inl rfl
  | danger succeeded risk => exact .inl rfl
  | pending succeeded risk unsupported => exact .inl rfl
  | caution succeeded risk evidence => exact .inl rfl
  | general succeeded risk evidence => exact .inl rfl

/-- The evidence of a run, whatever the service behind the guard answers over its attempts. The
retrieval is entered on an empty capture only, and the generation with references to chunks that
were forwarded since. What is shown refers to such chunks. A product that is not approved is never
searched for. A verdict that passes has accepted what the run refers to. -/
theorem evidence_gate (selects : Selects o) (guarded : a.service = some .guarded)
    (captured : a.captured = true) :
    (∀ retrieval generation : Step Unit,
      (∀ s, Fresh s → retrieval s = retrievalStage u o a s) →
      (∀ s, Gated u o a.product s → generation s = generationStage config o s) →
      judgedBy u config o a nfc wording analysed previousAnswers retrieval generation transport
          (.start analysed.context ⟨[], [], []⟩) =
        judged u config o a nfc wording analysed previousAnswers transport
          (.start analysed.context ⟨[], [], []⟩)) ∧
    (a.product.runtimeApproved = false → ∀ search,
      judged u config { o with search := search } a nfc wording analysed previousAnswers transport =
        judged u config o a nfc wording analysed previousAnswers transport) ∧
    ∀ clarified reliability t,
      judged u config o a nfc wording analysed previousAnswers transport
        (.start analysed.context ⟨[], [], []⟩) = (.ok (clarified, reliability), t) →
      ∀ request shown,
        (PipelineResult.mk a.product.modelCode clarified reliability t.ctx).toAnalysisResult
          request = .ok shown →
        (∀ id ∈ shown.evidenceReferences, ∃ chunk ∈ t.capture.forwarded,
          chunk.chunkId = id ∧ Delegated u o a.product chunk) ∧
        (a.product.runtimeApproved = false → shown.evidenceReferences = []) ∧
        (reliability.harnessRuntime.harness.decision = .pass →
          a.product.productFamily ≠ .unknown → Registered u a.product →
            (∀ id, id ∈ reliability.harnessRuntime.harness.verification.acceptedEvidenceChunkIds ↔
              id ∈ t.ctx.evidenceReferences) ∧
            (shown.evidenceReferences = t.ctx.evidenceReferences ∨
              (shown.status = .fallback ∧ shown.evidenceReferences = []))) := by
  have direct : a.service ≠ some .direct := by
    rw [guarded]
    nofun
  have clean (o : Outside) := clean_start (u := u) (o := o) analysed.context rfl a.product
  have unsearched (barred : a.product.runtimeApproved = false) : Unsearched a :=
    ⟨direct, .inl barred⟩
  refine ⟨?_, fun barred => judged_unsearched (unsearched barred), ?_⟩
  · intro retrieval generation begins enters
    refine judged_agree selects direct ?_ enters begins ⟨rfl, rfl⟩ (clean o)
    rw [captured, guarded]
    rfl
  · intro clarified reliability t ran request shown public_
    have settled := judged_settled selects direct (clean o) ran
    have references := shown_references public_
    refine ⟨?_, ?_, ?_⟩
    · intro id member
      have referenced : id ∈ t.ctx.evidenceReferences := by
        cases references with
        | inl same => exact same ▸ member
        | inr none =>
            rw [none.2] at member
            exact absurd member List.not_mem_nil
      have ⟨chunk, forwarded, named⟩ := settled.gated.references id referenced
      exact ⟨chunk, forwarded, named, settled.gated.screened.forwarded chunk forwarded⟩
    · intro barred
      rw [← judged_unsearched (unsearched barred) fun _ => .error .cancelled] at ran
      have silent := judged_settled (o := { o with search := fun _ => .error .cancelled })
        selects direct (clean _) ran
      cases references with
      | inl same => exact same.trans (unsearched_references silent.gated)
      | inr none => exact none.2
    · intro passes family registered
      exact ⟨settled.accepted ⟨captured, family, registered⟩ passes, references⟩

end Gate

namespace Sample

/-- The verdict of a run, the accepted ids, and the public references. -/
def verdictOf (analysed : Analysed) : Option (Decision × List String × List String) :=
  match router.runPipeline modelCode analysed (request []) with
  | .error _ => none
  | .ok result => ((result.toAnalysisResult (request [])).toOption).map fun shown =>
      (result.reliability.harnessRuntime.harness.decision,
        result.reliability.harnessRuntime.harness.verification.acceptedEvidenceChunkIds,
        shown.evidenceReferences)

def judgedOf (analysed : Analysed) : Except Failure (Clarified × ReliabilityResult) × State :=
  judged router.u router.config (router.outside modelCode analysed (request []))
    (router.args modelCode) router.nfc router.wording analysed [] .direct
    (.start analysed.context ⟨[], [], []⟩)

end Sample

/-- The verdict passes with an accepted chunk, and nothing of it is shown. -/
theorem evidence_withheld :
    Sample.verdictOf Sample.medium = some (.pass, ["c1"], []) := by
  decide +kernel

theorem ok_of_toOption {ε α : Type} {x : Except ε α} (h : x.toOption.isSome = true) :
    ∃ a, x = .ok a := by
  cases x with
  | error failure => cases h
  | ok a => exact ⟨a, rfl⟩

theorem evidence_gate_complete : ∃ clarified reliability t,
    Sample.judgedOf Sample.complete = (.ok (clarified, reliability), t) ∧
      t.ctx.evidenceReferences = ["c1"] ∧
        ∀ id, id ∈ reliability.harnessRuntime.harness.verification.acceptedEvidenceChunkIds ↔
          id ∈ ["c1"] := by
  have ended : ((Sample.judgedOf Sample.complete).1.toOption.map fun answer =>
      answer.2.harnessRuntime.harness.decision) = some .pass := by decide +kernel
  have kept : (Sample.judgedOf Sample.complete).2.ctx.evidenceReferences = ["c1"] := by
    decide +kernel
  have public_ : ((Sample.judgedOf Sample.complete).1.toOption.bind fun answer =>
      ((PipelineResult.mk "WPUJAC104DWH".toList answer.1 answer.2
        (Sample.judgedOf Sample.complete).2.ctx).toAnalysisResult
          (Sample.request [])).toOption).isSome = true := by decide +kernel
  have selects : Selects (Sample.router.outside Sample.modelCode Sample.complete
      (Sample.request [])) := by
    intro n chunks references selected id member
    rw [← Except.ok.inj selected] at member
    exact mem_referencesOf member
  cases ran : Sample.judgedOf Sample.complete with
  | mk answer t =>
      rw [ran] at ended kept public_
      cases answer with
      | error failure => cases ended
      | ok found =>
          have ⟨clarified, reliability⟩ := found
          have passes : reliability.harnessRuntime.harness.decision = .pass := Option.some.inj ended
          have ⟨shown, built⟩ := ok_of_toOption (x := (PipelineResult.mk "WPUJAC104DWH".toList
            clarified reliability t.ctx).toAnalysisResult (Sample.request [])) public_
          have whole := (evidence_gate selects (by rfl) (by rfl)).2.2 clarified reliability t ran
            (Sample.request []) shown built
          refine ⟨clarified, reliability, t, rfl, kept, ?_⟩
          rw [← kept]
          exact (whole.2.2 passes (by decide +kernel) (registered_resolve Sample.upper_basic _ _)).1

end WaterCare.Ai.Pipeline
