import WaterCare.Ai.Clarification
import WaterCare.Ai.Reliability
import WaterCare.Analysis.ResponseRouting

/-!
`SingleRAGPipeline`, the reliability runtime after it, and the public result that
`PipelineResult.to_analysis_result` makes of both. What the structuring and the safety check leave
is given, and so are the chunk table, the filters of a chunk and the language models.
-/

namespace WaterCare.Ai.Pipeline
open Store Analysis Machine Py SymptomStructurer Clarification Harness Reliability

/-! ### `product_registry.py` -/

/-- `KNOWN_EXACT_MODEL_CODES`. -/
def knownExactModelCodes : List (String × ProductFamily) :=
  [("WPUJAC104DWH", .directWaterPurifier), ("WPUIAC425SNW", .iceWaterPurifier),
    ("WPUIAC606SNW", .iceWaterPurifier)]

/-- `resolve_product_context`, without the functions of the product. -/
def resolveProductContext (u : Unicode) (approvedModelCodes : List (List Char))
    (modelCode : List Char) : ProductContext :=
  let exactCode := u.upper (stripChars modelCode)
  { modelCode := exactCode
    productFamily :=
      match knownExactModelCodes.find? fun entry => entry.1.toList == exactCode with
      | some entry => entry.2
      | none => .unknown
    runtimeApproved := approvedModelCodes.contains exactCode
    supportedFunctions := [] }

/-! ### The search -/

/-- What the chunk table answers a query with. Ids are the primary key of the table, and texts
that an issue of the harness can name. -/
structure Rows where
  chunks : List RetrievedChunk
  nodup : (chunks.map (·.chunkId)).Nodup
  named : ∀ chunk ∈ chunks, 1 ≤ (strip chunk.chunkId).length ∧ (strip chunk.chunkId).length ≤ 200

/-- What is outside of a run, with the table and the filters of the search in it. -/
structure World where
  outside : Outside
  store : Nat → Except Failure Rows
  /-- The filters of the search that do not look at the model code or the approval. -/
  admits : RetrievedChunk → Bool
  /-- `EvidenceTopicFilter`, by chunk. -/
  topical : RetrievedChunk → Bool
  /-- Whether `ScenarioEvidenceSelector` leaves any content of a chunk. -/
  scenario : RetrievedChunk → Bool
  /-- The reason that the selector gives for a chunk. -/
  reason : RetrievedChunk → String
  /-- `RetrievalContextBuilder.build`, by the symptom. -/
  queryText : StructuredSymptom → String

/-- `VectorSearchService.search`, of what the table answers. -/
def vectorSearch (admits : RetrievedChunk → Bool) (modelCode : List Char) (rows : Rows) :
    List RetrievedChunk :=
  rows.chunks.filter fun chunk =>
    chunk.modelCode == some modelCode && chunk.allowedUse &&
      chunk.verificationStatus == "official_verified" && admits chunk

/-- `EvidenceApplicabilityGate.filter_chunks`. -/
def filterChunks (symptomType : Text) (applicability : Option EvidenceApplicability)
    (chunks : List RetrievedChunk) : List RetrievedChunk :=
  if symptomType ≠ tasteOrOdorSymptom then chunks
  else if supported applicability then chunks
  else []

/-- The references that the filters of the retrieval stage leave. -/
def selectEvidence (w : World) (symptomType : Text) (applicability : Option EvidenceApplicability)
    (chunks : List RetrievedChunk) : List String :=
  ((filterChunks symptomType applicability (chunks.filter w.topical)).filter w.scenario).map
    (·.chunkId)

/-- The reasons that the selector leaves, of the chunks that it is given. -/
def selectionReasons (w : World) (symptomType : Text)
    (applicability : Option EvidenceApplicability) (chunks : List RetrievedChunk) : List String :=
  (filterChunks symptomType applicability (chunks.filter w.topical)).map w.reason

/-- The outside of a run over a symptom. -/
def World.around (w : World) (modelCode : List Char) (queryText : String) (symptomType : Text)
    (applicability : Option EvidenceApplicability) : Outside :=
  { w.outside with
    queryText := queryText
    applicability := applicability
    search := fun n => (w.store n).map (vectorSearch w.admits modelCode)
    select := fun _ chunks => .selected (selectionReasons w symptomType applicability chunks)
      (selectEvidence w symptomType applicability chunks) }

/-! ### The pipeline -/

/-- What a request brings apart from the texts of the customer. -/
structure Request where
  inquiryId : Nat
  correlationId : Uuid
  aiRequestId : String
  stateVersion : Nat
  previousAnswers : List PreviousAnswer

/-- What a run is given: the outside, the tables, the configuration and the approved codes. -/
structure Router where
  u : Unicode
  nfc : Text → Text
  config : SafetyRules
  world : World
  wording : Wording
  approvedModelCodes : List (List Char)
  service : Option Service

/-- What the structuring and the safety check leave. -/
structure Analysed where
  symptom : StructuredSymptom
  safety : SafetyAssessment

section Stages
variable (config : SafetyRules) (u : Unicode) (o : Outside) (a : Args)

/-- `execute_questionnaire_pending_stage`. -/
def questionnairePendingStage (previousAnswers : List PreviousAnswer) (clarified : Clarified) :
    Step Clarified := fun s =>
  match s.ctx.safetyAssessment with
  | none => (.error (.raised false), s)
  | some safety =>
      let cannotConfirm := !(unresolvedAnsweredRequiredFields clarified.symptom.symptomType
        clarified.missingFields previousAnswers).isEmpty
      let clarified :=
        if cannotConfirm then { clarified with followupQuestions := [] } else clarified
      (.ok clarified, { s with ctx := { s.ctx with
        awaitingCustomerInput := true
        safetyAssessment := some { safety with
          riskLevel := .caution
          priority := .consultationRecommended
          requiresConsultation := true
          safetyReason :=
            if cannotConfirm then "필수 정보를 확인하지 못해 상담 확인이 필요합니다."
            else "추가 정보 확인 전 안내 생성을 보류합니다." }
        usageGuidance := some
          { guidanceStatus := .pendingConsultation
            message :=
              if cannotConfirm then "필수 정보를 확인하지 못했습니다. 전문 상담을 통해 확인해 주세요."
              else "안전한 안내를 위해 추가 정보가 필요합니다. 표시된 질문에 답변해 주세요."
            restrictedFunctions := ["근거 확인 전 자가조치 안내"]
            nextActions :=
              [if cannotConfirm then "전문 상담 연결을 요청해 주세요." else "추가 질문에 답변해 주세요."] } } })

/-- The nodes of `SingleRAGPipeline` that follow the missing fields. -/
def afterMissingFields (waits : Bool) (previousAnswers : List PreviousAnswer)
    (clarified : Clarified) : Step Clarified :=
  if waits then
    (callUnit o.token).andThen fun _ =>
      (questionnairePendingStage previousAnswers clarified).andThen fun clarified =>
        (callUnit o.token).andThen fun _ =>
          (deadlineScope o (validationStage o)).andThen fun _ s => (.ok clarified, s)
  else
    (deadlineScope o (retrievalStage u o a)).andThen fun _ =>
      (deadlineScope o (generationStage config o)).andThen fun _ =>
        (deadlineScope o (validationStage o)).andThen fun _ s => (.ok clarified, s)

/-- `SingleRAGPipeline`, from the safety check on. -/
def singleRag (nfc : Text → Text) (wording : Wording) (analysed : Analysed)
    (previousAnswers : List PreviousAnswer) : Step Clarified :=
  if analysed.safety.riskLevel = .danger then
    (deadlineScope o (generationStage config o)).andThen fun _ =>
      (deadlineScope o (validationStage o)).andThen fun _ s =>
        (.ok ⟨analysed.symptom, [], []⟩, s)
  else
    let clarified := missingFieldsStage nfc wording analysed.symptom previousAnswers
    (deadlineScope o fun s => (.ok (), s)).andThen fun _ =>
      afterMissingFields config u o a
        (shouldWaitForCustomerInput nfc analysed.safety.riskLevel clarified.symptom.symptomType
          clarified.missingFields previousAnswers) previousAnswers clarified

end Stages

/-- The context in which the safety check leaves a run. -/
def Analysed.context (analysed : Analysed) : Context :=
  ⟨some analysed.safety, none, [], .notRun, false, 0, none, none, [], .default⟩

/-- What a run leaves: the questions, the verdict of the reliability runtime and the context. -/
structure PipelineResult where
  modelCode : List Char
  clarified : Clarified
  reliability : ReliabilityResult
  context : Context

section Run
variable (r : Router) (modelCode : List Char) (analysed : Analysed) (request : Request)

def Router.product : ProductContext := resolveProductContext r.u r.approvedModelCodes modelCode

def Router.args : Args where
  product := r.product modelCode
  captured := r.service.isSome
  service := r.service
  requiredFunctions := []
  output := .absent
  toolFailure := none

def Router.outside : Outside :=
  r.world.around (r.product modelCode).modelCode
    (r.world.queryText (withApplicability r.nfc analysed.symptom request.previousAnswers))
    analysed.symptom.symptomType (classifyForSymptom r.nfc analysed.symptom.symptomType request.previousAnswers)

/-- The pipeline of a run, up to the reliability runtime. -/
def Router.pipeline : Step Clarified :=
  singleRag r.config r.u (r.outside modelCode analysed request) (r.args modelCode) r.nfc r.wording
    analysed request.previousAnswers

/-- `run_pipeline`, over what the first two stages leave. -/
def Router.runPipeline : Except Failure PipelineResult :=
  match r.pipeline modelCode analysed request (.start analysed.context ⟨[], [], []⟩) with
  | (.error failure, _) => .error failure
  | (.ok clarified, s) =>
      match Reliability.run r.u r.config (r.outside modelCode analysed request)
          (r.args modelCode) s with
      | (.error failure, _) => .error failure
      | (.ok reliability, s) => .ok ⟨(r.product modelCode).modelCode, clarified, reliability, s.ctx⟩

end Run

/-! ### `pipeline_result.py` -/

/-- The reasons of `_resolve_fallback_reason_code`, by precedence. -/
def fallbackPrecedence : List FallbackReason :=
  [.runtimeProductNotApproved, .mcpToolFailure, .outputSchemaInvalid, .noEvidence]

/-- `_resolve_fallback_reason_code`. -/
def resolveFallbackReasonCode (issues : List VerificationIssue)
    (isNoEvidenceFallback isReliabilityFallback : Bool) : Option FallbackReason :=
  match fallbackPrecedence.find? fun reason => issues.any (·.code.text == reason.code) with
  | some reason => some reason
  | none =>
      if isNoEvidenceFallback then some .noEvidence
      else if isReliabilityFallback then some .unspecifiedFallback
      else none

namespace PipelineResult
variable (result : PipelineResult) (request : Request)

/-- `clarification_fallback`. -/
def clarificationFallback : Bool :=
  result.context.awaitingCustomerInput && result.clarified.followupQuestions.isEmpty &&
    !(unresolvedAnsweredRequiredFields result.clarified.symptom.symptomType
      result.clarified.missingFields request.previousAnswers).isEmpty

/-- `is_no_evidence_fallback`. -/
def noEvidenceFallback : Bool :=
  result.context.retrievalOutcome == .noMatch && result.context.evidenceReferences.isEmpty &&
    !result.context.awaitingCustomerInput &&
    result.context.usageGuidance.any (·.guidanceStatus == .pendingConsultation)

/-- `is_reliability_fallback`. -/
def reliabilityFallback : Bool := result.reliability.harnessRuntime.harness.decision != .pass

def isFallback : Bool :=
  result.noEvidenceFallback || result.reliabilityFallback || result.clarificationFallback request

def status : ExecutionStatus := if result.isFallback request then .fallback else .succeeded

def fallbackReasonCode : Option FallbackReason :=
  let reason := resolveFallbackReasonCode
    result.reliability.harnessRuntime.harness.verification.issues result.noEvidenceFallback
    result.reliabilityFallback
  if result.clarificationFallback request then reason.or (some .unspecifiedFallback) else reason

def failureStage : Option AiStage :=
  if result.noEvidenceFallback then some .retrieving
  else if result.reliabilityFallback then some .validating
  else if result.clarificationFallback request then some .checkingMissingFields
  else none

/-- `SymptomAnalysisResult(...)`, with the checks of the model on what the run computes. -/
def analysisResult : Except RuleFault SymptomAnalysisResult :=
  match result.context.safetyAssessment, result.context.usageGuidance with
  | some safety, some guidance =>
      if reason_iff : (result.fallbackReasonCode request).isSome =
          decide (result.status request = .fallback) then
        if result.context.retryCount ≤ 1 then
          .ok {
            inquiryId := request.inquiryId
            correlationId := request.correlationId
            aiRequestId := request.aiRequestId
            stateVersion := request.stateVersion
            modelCode := String.ofList result.modelCode
            status := result.status request
            fallbackReasonCode := result.fallbackReasonCode request
            failureStage := result.failureStage request
            retryCount := result.context.retryCount
            missingFields := result.clarified.missingFields.map (·.field.name)
            followupQuestions := result.clarified.followupQuestions
            safetyAssessment := safety
            usageGuidance := guidance
            evidenceReferences := result.context.evidenceReferences
            reason_iff := reason_iff }
        else .error .validationError
      else .error .validationError
  | _, _ => .error .validationError

/-- `to_analysis_result`. -/
def toAnalysisResult : Except RuleFault SymptomAnalysisResult :=
  (result.analysisResult request).map fun analysisResult =>
    (ResponseRoutingPolicy.apply analysisResult
      (some result.reliability.harnessRuntime.harness.verification.acceptedEvidenceChunkIds)).1

end PipelineResult

end WaterCare.Ai.Pipeline
