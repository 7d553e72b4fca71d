import WaterCare.Analysis.SafetyRegistry
import WaterCare.Service.Review

/-!
`inquiry_ai_service.py`: the transactions of one analysis. The call of the AI lies
between them, so every one of them finds the inquiry as other requests left it.
-/

namespace WaterCare.Service
open Workflow Store Py Analysis

namespace InquiryAIService

/-! ### The run -/

/-- The fields of the request to the AI that the Backend keeps. -/
structure AnalysisRequest where
  aiRequestId : String
  inputDigest : String
  stateVersion : Nat
  modelCode : String
  correlationId : Uuid

def queuedRun (id : Nat) (analysis : AnalysisRequest) (now : Instant) : AIRun where
  id := id
  idempotencyKey := analysis.aiRequestId
  inputDigest := analysis.inputDigest
  inputStateVersion := analysis.stateVersion
  inputModelCode := analysis.modelCode
  correlationId := analysis.correlationId
  status := .queued
  schemaStatus := .notRun
  validatedOutput := none
  errorCode := none
  retryCount := 0
  startedAt := none
  completedAt := none
  createdAt := now

/-- `_create_run`: a run for a cancelled or changed inquiry is cancelled at once. -/
def createRun (a : Aggregate) (analysis : AnalysisRequest) (id : Nat) (now : Instant) :
    Except Failure Aggregate := do
  let queued := queuedRun id analysis now
  let run ← save
    (if a.q.status = .cancelled ∨ a.q.stateVersion ≠ analysis.stateVersion then
      { queued with
        status := .cancelled, completedAt := some now, errorCode := "CANCELLED_OR_STALE_INQUIRY" }
    else queued) "IntegrityError"
  pure { a with runs := a.runs ++ [run] }

def runById (a : Aggregate) (id : Nat) : Option (Stored AIRun) :=
  a.runs.find? fun r => decide (r.1.id = id)

/-- A change of a run that is in one of the expected statuses; another is left alone. -/
def changeRun (a : Aggregate) (id : Nat) (expected : RunStatus → Bool) (change : AIRun → AIRun) :
    Except Failure Aggregate :=
  match runById a id with
  | none => .error (.raised "DoesNotExist")
  | some run =>
      if expected run.1.status then do
        let row ← save (change run.1) "ValidationError"
        pure { a with runs := replaceRow (·.1.id) row a.runs }
      else .ok a

def isActive : RunStatus → Bool
  | .running | .retrying => true
  | .queued | .succeeded | .noEvidence | .failed | .timedOut | .cancelled => false

def isUsable : RunStatus → Bool
  | .succeeded | .noEvidence => true
  | .queued | .running | .retrying | .failed | .timedOut | .cancelled => false

def markRunning (a : Aggregate) (id : Nat) (now : Instant) : Except Failure Aggregate :=
  changeRun a id (fun status => decide (status = .queued)) fun run =>
    { run with status := .running, startedAt := some now }

def markSucceeded (a : Aggregate) (id : Nat) (result : SymptomAnalysisResult) (now : Instant) :
    Except Failure Aggregate :=
  changeRun a id isActive fun run =>
    { run with
      status := if result.isNoEvidence then .noEvidence else .succeeded
      validatedOutput := some (.success result)
      schemaStatus := .passed
      completedAt := some now
      retryCount := result.retryCount }

/-- `map_success_response` accepts the result as the answer to the request of a run. -/
def isMapped (inquiry : Nat) (run : AIRun) (r : SymptomAnalysisResult) : Bool :=
  decide (r.inquiryId = inquiry) && decide (r.correlationId = run.correlationId) &&
    decide (r.aiRequestId = run.idempotencyKey) &&
    decide (r.stateVersion = run.inputStateVersion) &&
    decide (r.modelCode = run.inputModelCode) && (responseErrors r).isEmpty

/-- What `_mark_failed` reads of an `AIIntegrationError`. -/
structure AIError where
  code : String
  isTimeout : Bool
  retryCount : Nat
  schemaFailed : Bool
  payload : Option ErrorOutput

def markFailed (a : Aggregate) (id : Nat) (error : AIError) (now : Instant) :
    Except Failure Aggregate :=
  changeRun a id isActive fun run =>
    { run with
      status := if error.isTimeout ∨ error.code = "AI-TIMEOUT-01" then .timedOut else .failed
      errorCode := some error.code
      retryCount := error.retryCount
      completedAt := some now
      schemaStatus :=
        if error.schemaFailed then .failed
        else if error.payload.isSome then .passed else run.schemaStatus
      validatedOutput :=
        if error.schemaFailed then run.validatedOutput
        else (error.payload.map .failure).or run.validatedOutput }

def markDomainPersistenceFailed (a : Aggregate) (id : Nat) (failureCode : String) :
    Except Failure Aggregate :=
  changeRun a id isUsable fun run =>
    { run with status := .failed, errorCode := some failureCode, validatedOutput := none }

/-! ### Events of an unusable analysis -/

/-- The event that moved the inquiry, or why none did. -/
structure EventOutcome where
  eventApplied : Option EventCode
  pendingReason : Option String
  deriving DecidableEq

def staleOutcome : EventOutcome := ⟨none, some "STALE_STATE_VERSION"⟩

/-- `Inquiry.clean`: the role of the assigned user. -/
def assignmentIsClean (d : Directory) (q : Inquiry) : Bool :=
  q.assignedUser.all fun id => (d.user id).any fun user =>
    match q.assignedRole with
    | .consultant => decide (user.role = .consultant)
    | .technician => decide (user.role = .technician)
    | .none => false

/-- The transition of an event of the system, with further fields of the inquiry. -/
def applySystemEvent (a : Aggregate) (plan : Plan) (mark : Inquiry → Inquiry)
    (correlationId : Uuid) (key : String) (now : Instant) : Except Failure Aggregate := do
  let inquiry ← save (mark (applyStateTransition plan a.q)) "IntegrityError"
  Aggregate.recordHistory { a with inquiry := inquiry }
    (systemHistory a plan correlationId key none now)

/-- `_apply_timeout_event` and `_apply_unusable_ai_failure_event`, each with its event,
its guard and the fields it sets. -/
def applyFailureEvent (event : EventCode) (guard : GuardId) (accepted : AIRun → Bool)
    (mark : Inquiry → Inquiry) (d : Directory) (a : Aggregate) (run : AIRun) (now : Instant) :
    Except Failure (Aggregate × EventOutcome) :=
  if a.q.status ≠ .questionnaireInProgress ∨ a.q.stateVersion ≠ run.inputStateVersion then
    .ok (a, staleOutcome)
  else
    match shipped.resolve a.snapshot event with
    | .error _ => .error (.raised "InvalidStateTransition")
    | .ok plan =>
        match shipped.evaluate plan.rule a.snapshot
            (systemContext run.correlationId run.inputStateVersion [(guard, accepted run)]) with
        | some failure => .ok (a, ⟨none, some failure.errorCode⟩)
        | none =>
            if assignmentIsClean d a.q then do
              let written ← applySystemEvent a plan mark run.correlationId run.idempotencyKey now
              pure (written, ⟨some event, none⟩)
            else .error (.raised "ValidationError")

/-- `_apply_timeout_event`. -/
def applyTimeoutEvent :
    Directory → Aggregate → AIRun → Instant → Except Failure (Aggregate × EventOutcome) :=
  applyFailureEvent .aiProcessingTimeout .aiProcessingTimeoutValid
    (fun run => decide (run.status = .timedOut) && decide (run.errorCode = some "AI-TIMEOUT-01") &&
      decide (run.retryCount = 0))
    fun q =>
      { q with requiresFallback := true, usageGuidanceStatus := some .pendingConsultation }

/-- `_apply_unusable_ai_failure_event`. -/
def applyUnusableAiFailureEvent :
    Directory → Aggregate → AIRun → Instant → Except Failure (Aggregate × EventOutcome) :=
  applyFailureEvent .noEvidence .noUsableEvidence
    (fun run => decide (run.status = .failed) && isFilled run.errorCode)
    fun q =>
      { q with
        requiresFallback := true
        usageGuidanceStatus := some .pendingConsultation
        evidenceMode := some .noEvidence
        evidenceIds := [] }

/-! ### A validated result -/

/-- What the verifiers outside the transaction's rows answer for one result: the
identifiers of the verified evidence with their documents and verifiers, whether the
evidence rows can be stored, and the cause ledger or why it is refused. -/
structure Verification where
  evidenceIds : List String
  documentSha256 : String → String
  verifiedBy : String → Nat
  verifiedAt : String → Instant
  linksStored : Bool
  ledger : Option (Except String (List LedgerCause))

/-- `GuidanceReviewPolicy.initial_status`. -/
def initialStatus (r : SymptomAnalysisResult) : String :=
  if r.isFallback || r.isNoEvidence then "REJECTED"
  else
    match r.safetyAssessment.riskLevel with
    | .caution => "PENDING"
    | .general | .danger => "CONFIRMED"

/-- `_save_assessment`. -/
def saveAssessment (a : Aggregate) (run : AIRun) (r : SymptomAnalysisResult) :
    Except Failure Aggregate := do
  let row ← save
    { assessmentVersion := (a.assessments.map (·.1.assessmentVersion)).foldr max 0 + 1
      riskLevel := r.safetyAssessment.riskLevel
      usageGuidanceStatus := r.usageGuidance.guidanceStatus
      requiresConsultation := r.safetyAssessment.requiresConsultation
      reason := r.safetyAssessment.safetyReason
      ruleResult := r.safetyAssessment
      run := run.id : SymptomAssessment } "ValidationError"
  pure { a with assessments := a.assessments ++ [row] }

/-- `_save_consultation_cause_ledger`, after its verification. -/
def saveLedger (a : Aggregate) (run : AIRun) :
    Option (Except String (List LedgerCause)) → Except Failure Aggregate
  | none => .ok a
  | some (.error name) => .error (.raised name)
  | some (.ok causes) => .ok { a with causeLedgers := a.causeLedgers ++ [⟨run.id, causes⟩] }

/-- `InquiryQA.clean`, the length of its code and the blank check of its text. -/
def questionIsClean (question : FollowUpQuestion) : Bool :=
  decide (question.questionId.length ≤ 80) && question.questionText != "" &&
    decide (question.options.length ≤ 10) &&
    question.options.all fun option => hasText option && decide (option.length ≤ 200)

/-- The loop of `_save_followup_questions`; a question code is asked once. -/
def saveFollowupQuestions (a : Aggregate) (id : Nat) :
    List FollowUpQuestion → Except Failure Aggregate
  | [] => .ok a
  | question :: rest =>
      if a.questions.any fun q => decide (q.questionCode = some question.questionId) then
        saveFollowupQuestions a id rest
      else if questionIsClean question then
        saveFollowupQuestions
          { a with questions := a.questions ++
            [{ id := id
               sequenceNo := (a.questions.map (·.sequenceNo)).foldr max 0 + 1
               questionCode := some question.questionId
               questionText := question.questionText
               answerType := if question.options.isEmpty then "FREE_TEXT" else "SINGLE_CHOICE"
               questionOptions := publicQuestionOptions question.options
               targetField := some question.targetField
               customerAnswer := none }] } (id + 1) rest
      else .error (.raised "ValidationError")

/-- `_save_guidance` with the links of `_save_evidence_links`. -/
def guidanceOfResult (a : Aggregate) (run : AIRun) (r : SymptomAnalysisResult) (v : Verification)
    (id : Nat) : Guidance :=
  let actions := r.usageGuidance.nextActions
  { id := id
    guidanceVersion := HumanReviewService.lastGuidanceVersion a + 1
    reviewStatus := initialStatus r
    title := "AI 사용 안내 초안"
    summaryText := r.usageGuidance.message
    safetyNotice := some r.safetyAssessment.safetyReason
    evidenceSufficiency := "VERIFIED"
    requiresConsultation := r.safetyAssessment.requiresConsultation
    run := some run.id
    reviewedBy := none
    reviewedAt := none
    items := actions.mapIdx fun i text => ⟨id + 1 + i, i + 1, "NEXT_ACTION", text, none, true⟩
    evidenceLinks := v.evidenceIds.mapIdx fun i chunk =>
      ⟨id + 1 + actions.length + i, i + 1, chunk, v.documentSha256 chunk, true,
        some (v.verifiedBy chunk), some (v.verifiedAt chunk)⟩ }

/-- `_save_verified_guidance_bundle`: guidance, links and the review of a pending guidance. -/
def saveGuidanceBundle (a : Aggregate) (run : AIRun) (r : SymptomAnalysisResult) (v : Verification)
    (id : Nat) (now : Instant) : Except Failure Aggregate := do
  let guidance ← save (guidanceOfResult a run r v (id + 1)) "ValidationError"
  if !v.linksStored then .error (.raised "ValueError")
  else
    let saved := { a with guidances := a.guidances ++ [guidance] }
    if guidance.1.reviewStatus = "PENDING" then
      HumanReviewService.createPending saved guidance.1 run.idempotencyKey a.q.stateVersion id now
    else pure saved

/-- The bundle as `_persist_validated_result` saves it: with a cause ledger a failure
rolls everything back, without one the evidence is dropped. -/
def saveBundle (a : Aggregate) (run : AIRun) (r : SymptomAnalysisResult) (v : Verification)
    (id : Nat) (now : Instant) : Except Failure (Aggregate × List String) :=
  if v.evidenceIds.isEmpty then .ok (a, [])
  else
    match saveGuidanceBundle a run r v id now with
    | .ok saved => .ok (saved, v.evidenceIds)
    | .error failure => if v.ledger.isSome then .error failure else .ok (a, [])

/-- `_requires_no_usable_evidence_transition`. -/
def requiresNoUsableEvidence (r : SymptomAnalysisResult) (verified : List String) : Bool :=
  verified.isEmpty && r.followupQuestions.isEmpty && !r.isDanger && !r.isProductValidationFailed

/-- `_update_inquiry_projection`. -/
def projected (q : Inquiry) (r : SymptomAnalysisResult) (verified : List String) : Inquiry :=
  let unusable := requiresNoUsableEvidence r verified
  let rejected := !r.evidenceReferences.isEmpty && verified.isEmpty
  let projection :=
    { q with
      riskLevel := some r.safetyAssessment.riskLevel
      usageGuidanceStatus :=
        if unusable then some .pendingConsultation else some r.usageGuidance.guidanceStatus
      requiresFallback := r.isFallback || rejected || unusable }
  if r.isNoEvidence || (unusable && !rejected) then
    { projection with evidenceMode := some .noEvidence, evidenceIds := [] }
  else if !verified.isEmpty then
    { projection with evidenceMode := some .exactModel, evidenceIds := verified }
  else if rejected then
    { projection with evidenceMode := some .partialEvidence, evidenceIds := [] }
  else projection

/-- The event of `_apply_event_if_allowed`, or why there is none. -/
def eventOfResult (r : SymptomAnalysisResult) (verified : List String) : Except String EventCode :=
  match eventCandidate r with
  | none =>
      if r.safetyAssessment.riskLevel = .caution ∧ verified ≠ [] then .error "HUMAN_REVIEW_REQUIRED"
      else if requiresNoUsableEvidence r verified then .ok .noEvidence
      else .error "NO_STATE_EVENT_CANDIDATE"
  | some event =>
      if event = .safeGuidanceReady ∧ verified = [] then
        if requiresNoUsableEvidence r verified then .ok .noEvidence
        else .error "CANONICAL_EVIDENCE_VERIFICATION_REQUIRED"
      else .ok event

/-- The domain results of `_apply_event_if_allowed`. -/
def eventResults (r : SymptomAnalysisResult) (verified : List String) (event : EventCode) :
    List (GuardId × Bool) :=
  [ (.productValidationFailed, r.isProductValidationFailed),
    (.noUsableEvidence, decide (event = .noEvidence) && requiresNoUsableEvidence r verified),
    (.safeGuidanceValid, decide (event = .safeGuidanceReady) &&
      decide (r.safetyAssessment.riskLevel = .general) &&
      !r.safetyAssessment.requiresConsultation &&
      decide (r.usageGuidance.guidanceStatus = .normal)),
    (.officialEvidenceAvailable, !verified.isEmpty),
    (.noDangerConflict, !r.isDanger),
    (.dangerAssessmentValid, dangerAssessmentIsValid r) ]

/-- The queue row of a danger event. -/
def requestOnDanger (d : Directory) (a : Aggregate) (r : SymptomAnalysisResult) (plan : Plan)
    (id : Nat) (now : Instant) : Except Failure Aggregate :=
  if plan.rule.event = .dangerDetected then
    (ConsultationRepository.request d a
      ⟨plan.version, "ai-danger-" ++ r.aiRequestId, r.correlationId.1⟩
      (ConsultationRepository.lockLatest a) id now).map (·.1)
  else .ok a

/-- `_apply_event_if_allowed`. -/
def applyEventIfAllowed (d : Directory) (a : Aggregate) (r : SymptomAnalysisResult)
    (verified : List String) (id : Nat) (now : Instant) :
    Except Failure (Aggregate × EventOutcome) :=
  match eventOfResult r verified with
  | .error reason => .ok (a, ⟨none, some reason⟩)
  | .ok event =>
      match shipped.resolve a.snapshot event with
      | .error _ => .error (.raised "InvalidStateTransition")
      | .ok plan =>
          match shipped.evaluate plan.rule a.snapshot
              (systemContext r.correlationId r.stateVersion (eventResults r verified event)) with
          | some failure => .ok (a, ⟨none, some failure.errorCode⟩)
          | none => do
              let moved ← applySystemEvent a plan (fun q => q) r.correlationId r.aiRequestId now
              let requested ← requestOnDanger d moved r plan id now
              pure (requested, ⟨some event, none⟩)

/-- The identifiers a result may use, counted from the first. -/
def identifiers (r : SymptomAnalysisResult) (v : Verification) : Nat :=
  3 + r.usageGuidance.nextActions.length + v.evidenceIds.length + r.followupQuestions.length

/-- `_persist_validated_result`. -/
def persistValidatedResult (d : Directory) (a : Aggregate) (run : AIRun)
    (r : SymptomAnalysisResult) (v : Verification) (id : Nat) (now : Instant) :
    Except Failure (Aggregate × EventOutcome) :=
  if a.q.stateVersion ≠ r.stateVersion then .ok (a, staleOutcome)
  else do
    let assessed ← saveAssessment a run r
    let audited ← saveLedger assessed run v.ledger
    let asked ← saveFollowupQuestions audited
      (id + 3 + r.usageGuidance.nextActions.length + v.evidenceIds.length) r.followupQuestions
    let (saved, verified) ← saveBundle asked run r v (id + 1) now
    let inquiry ← save (projected saved.q r verified) "IntegrityError"
    applyEventIfAllowed d { saved with inquiry := inquiry } r verified id now

end InquiryAIService
end WaterCare.Service
