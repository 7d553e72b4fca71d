import WaterCare.Analysis.SafetyRegistry
import WaterCare.Service.Repository

/-!
`consultation_handoff_service.py`: a hand-off of the AI is stored once for its
request, when the rows of the Backend bear out why it was made.
-/

namespace WaterCare.Service
open Workflow Store Py Analysis

/-- The fields of a hand-off request the service decides on, with the digest of the
whole request and the draft built from its texts. -/
structure HandoffPayload where
  schemaVersion : String
  aiRequestId : String
  stateVersion : Option Nat
  modelCode : String
  routingReason : Option String
  safetyLevel : String
  safetyRequiresConsultation : Bool
  escalationReason : String
  evidenceIds : List String
  payloadSha256 : String
  aiDraftSummary : String

namespace ConsultationHandoffService

def stale (message : String) : Failure := .business "AI_HANDOFF_STALE" message [] 409

def notReady (message : String) : Failure := .business "AI_HANDOFF_NOT_READY" message [] 409

def conflict (message : String) : Failure := .business "STATE-CONFLICT-01" message [] 409

def evidenceError (message : String) : Failure :=
  .business "AI_HANDOFF_EVIDENCE_REJECTED" message [] 422

/-- `HARNESS_ALLOWED_PAIRS`. -/
def harnessAllowedPairs : List (FallbackReason × AiStage) :=
  [(.mcpToolFailure, .validating), (.outputSchemaInvalid, .validating),
    (.unspecifiedFallback, .validating)]

/-- `FAIL_CLOSED_EVENT_BY_REASON`. -/
def failClosedEventByReason : FallbackReason → Option EventCode
  | .noEvidence => some .noEvidence
  | .runtimeProductNotApproved => some .productValidationFailed
  | .mcpToolFailure | .outputSchemaInvalid | .unspecifiedFallback => none

/-- The pair of an output is one a harness escalation may have. -/
def isHarnessPair (r : SymptomAnalysisResult) : Bool :=
  harnessAllowedPairs.any fun pair =>
    decide (r.fallbackReasonCode = some pair.1) && decide (r.failureStage = some pair.2)

/-- `_validated_output`. -/
def validatedOutput (run : AIRun) : Except Failure SymptomAnalysisResult :=
  match run.validatedOutput with
  | some (.success result) =>
      if run.schemaStatus = .passed then .ok result else .error notPassed
  | some (.failure _) =>
      if run.schemaStatus = .passed then
        .error (stale "성공 계약으로 확정된 AI 실행 결과를 확인할 수 없습니다.")
      else .error notPassed
  | none => .error notPassed
where
  notPassed : Failure := stale "계약 검증을 통과한 AI 실행 결과를 확인할 수 없습니다."

/-- `_require_transition`. -/
def requireTransition (a : Aggregate) (run : AIRun) (event : EventCode) : Except Failure Unit :=
  if a.history.any fun h =>
      decide (h.1.event = event) && decide (h.1.correlationId = run.correlationId.1) &&
        decide (h.1.idempotencyKey = run.idempotencyKey) && decide (h.1.actor = .system) then
    .ok ()
  else .error (stale "Handoff 사유와 일치하는 Backend 상태 이력이 없습니다.")

/-- The rejected review of the request. -/
def rejectedReviewExists (a : Aggregate) (run : AIRun) (stateVersion : Option Nat) : Bool :=
  a.reviews.any fun r =>
    decide (r.1.sourceAiRequestId = run.idempotencyKey) &&
      decide (some r.1.sourceInquiryStateVersion = stateVersion) &&
      decide (r.1.status = .rejected) && decide (r.1.decision = some .reject)

/-- `_validate_fail_closed_authority`. -/
def validateFailClosedAuthority (a : Aggregate) (run : AIRun) (payload : HandoffPayload) :
    Except Failure Unit :=
  if payload.escalationReason = "HUMAN_REVIEW_REJECTED" then do
    let _ ← validatedOutput run
    if rejectedReviewExists a run payload.stateVersion then .ok ()
    else .error (stale "거절된 Human Review 결속을 확인할 수 없습니다.")
  else if payload.escalationReason = "AI_PROCESSING_TIMEOUT" then
    if run.status ≠ .timedOut ∨ run.errorCode ≠ some "AI-TIMEOUT-01" then
      .error (stale "AI 시간 초과 실행 기록을 확인할 수 없습니다.")
    else requireTransition a run .aiProcessingTimeout
  else do
    let output ← validatedOutput run
    match output.fallbackReasonCode with
    | none => .error differs
    | some reason =>
        if payload.escalationReason ≠ reason.code ∨ isHarnessPair output then .error differs
        else
          match failClosedEventByReason reason with
          | none => .ok ()
          | some event =>
              if reason = .noEvidence ∧ run.status ≠ .noEvidence then
                .error (stale "근거 없음 Handoff의 AI 실행 상태가 일치하지 않습니다.")
              else requireTransition a run event
where
  differs : Failure := stale "안전 종료 Handoff의 확정 사유가 AI 실행과 다릅니다."

/-- `_validate_v2_route_authority`. -/
def validateV2RouteAuthority (a : Aggregate) (run : AIRun) (payload : HandoffPayload) :
    Except Failure Unit :=
  if payload.routingReason = some "DANGER_HANDOFF" then do
    let output ← validatedOutput run
    if !dangerAssessmentIsValid output ∨ payload.safetyLevel ≠ "danger" ∨
        payload.safetyRequiresConsultation = false then
      .error (stale "위험 Handoff가 확정된 위험 판정과 일치하지 않습니다.")
    else requireTransition a run .dangerDetected
  else if payload.routingReason = some "HARNESS_ESCALATE" then do
    let output ← validatedOutput run
    if isHarnessPair output ∧
        some payload.escalationReason = output.fallbackReasonCode.map (·.code) then .ok ()
    else .error (stale "Harness Handoff 승인 조합을 확인할 수 없습니다.")
  else validateFailClosedAuthority a run payload

/-! ### The run of the request -/

def isTerminal : RunStatus → Bool
  | .succeeded | .noEvidence | .failed | .timedOut => true
  | .queued | .running | .retrying | .cancelled => false

def isTransient : RunStatus → Bool
  | .queued | .running | .retrying => true
  | .succeeded | .noEvidence | .failed | .timedOut | .cancelled => false

/-- The output echoes the identifiers of its run and the version of the hand-off. -/
def outputIdentity (inquiry : Nat) (run : AIRun) (payload : HandoffPayload) : Bool :=
  match run.validatedOutput with
  | none => true
  | some (.success r) =>
      decide (r.inquiryId = inquiry) && decide (r.correlationId = run.correlationId) &&
        decide (r.aiRequestId = run.idempotencyKey) &&
        decide (some r.stateVersion = payload.stateVersion) &&
        decide (r.modelCode = payload.modelCode)
  | some (.failure e) =>
      decide (e.inquiryId = inquiry) && decide (e.correlationId = run.correlationId) &&
        decide (e.aiRequestId = run.idempotencyKey) &&
        decide (some e.stateVersion = payload.stateVersion)

/-- `_validate_original_run_identity`. -/
def validateOriginalRunIdentity (inquiry : Nat) (run : AIRun) (payload : HandoffPayload) :
    Except Failure Unit :=
  if some run.inputStateVersion ≠ payload.stateVersion ∨ run.inputModelCode ≠ payload.modelCode then
    .error (stale "Handoff가 원래 AI 입력 상태와 일치하지 않습니다.")
  else if outputIdentity inquiry run payload then .ok ()
  else .error (stale "Handoff가 확정된 AI 출력 식별자와 일치하지 않습니다.")

/-- `_lock_v2_ai_run`, with the inquiry of the run. -/
def lockV2AiRun (w : World) (inquiry : Nat) (payload : HandoffPayload) (correlationId : Uuid) :
    Except Failure AIRun :=
  let isRun (r : Stored AIRun) := decide (r.1.idempotencyKey = payload.aiRequestId)
  match (w.ownerOf fun a => a.runs.any isRun).bind fun owner =>
      (w.aggregate owner).bind fun a => (a.runs.find? isRun).map fun r => (owner, r.1) with
  | none => .error (notReady "원래 AI 실행 기록이 아직 준비되지 않았습니다.")
  | some (owner, run) =>
      if owner ≠ inquiry ∨ run.correlationId ≠ correlationId then
        .error (stale "Handoff 식별자가 원래 AI 실행과 일치하지 않습니다.")
      else if isTransient run.status ∨ run.completedAt.isNone then
        .error (notReady "AI 실행 결과가 아직 확정되지 않았습니다.")
      else if !isTerminal run.status then
        .error (stale "AI 실행이 Handoff에 사용할 수 없는 상태입니다.")
      else (validateOriginalRunIdentity inquiry run payload).map fun _ => run

/-- `_lock_v1_ai_run`. -/
def lockV1AiRun (a : Aggregate) (payload : HandoffPayload) (correlationId : Uuid) :
    Except Failure AIRun :=
  match a.runs.find? fun r =>
      decide (r.1.idempotencyKey = payload.aiRequestId) &&
        decide (r.1.correlationId = correlationId) && isTerminal r.1.status with
  | some run => .ok run.1
  | none =>
      .error (conflict "Inquiry·Correlation·AI Request가 같은 AI 실행을 확인할 수 없습니다.")

/-! ### Persisting a hand-off -/

def isV2 (payload : HandoffPayload) : Bool := payload.schemaVersion == "2.0.0"

def mismatch (payload : HandoffPayload) (message : String) : Failure :=
  if isV2 payload then stale message else conflict message

/-- The new row. -/
def handoffRow (payload : HandoffPayload) (run : AIRun) (id : Nat) (now : Instant) :
    ConsultationHandoff where
  id := id
  run := run.id
  consultation := none
  aiRequestId := payload.aiRequestId
  schemaVersion := payload.schemaVersion
  routingReason := payload.routingReason
  payloadStateVersion := payload.stateVersion
  payloadSha256 := payload.payloadSha256
  aiDraftSummary := payload.aiDraftSummary
  createdAt := now

/-- The checks of a new hand-off: its run, its model, its authority and its evidence,
whose check against the crosswalk of the documents is given. -/
def authorize (w : World) (inquiry : Nat) (a : Aggregate) (payload : HandoffPayload)
    (correlationId : Uuid) (checkEvidence : AIRun → Except Failure Unit) : Except Failure AIRun := do
  let run ← if isV2 payload then lockV2AiRun w inquiry payload correlationId
    else lockV1AiRun a payload correlationId
  if (w.directory.subscription a.q.subscription).map (·.modelCode) ≠ some payload.modelCode then
    .error (mismatch payload "상담 인계 모델이 문의 구독 제품과 일치하지 않습니다.")
  else do
    if isV2 payload then validateV2RouteAuthority a run payload else pure ()
    checkEvidence run
    pure run

/-- `persist`. -/
def persist (w : World) (inquiry : Nat) (payload : HandoffPayload) (idempotencyKey : String)
    (correlationId : Uuid) (checkEvidence : AIRun → Except Failure Unit) (now : Instant) :
    Except Failure World :=
  match w.aggregate inquiry with
  | none => .error (mismatch payload "동일 Inquiry를 확인할 수 없습니다.")
  | some a =>
      if idempotencyKey ≠ payload.aiRequestId then
        .error (conflict "Idempotency Key와 AI Request가 일치하지 않습니다.")
      else
        match a.handoffs.find? fun h => decide (h.aiRequestId = payload.aiRequestId) with
        | some existing =>
            if existing.payloadSha256 ≠ payload.payloadSha256 then
              .error (.business "DUPLICATE-EVENT-01"
                "동일 AI Request가 다른 Handoff Payload에 재사용되었습니다." [] 409)
            else if isV2 payload then .ok w
            else do
              let attached ← ConsultationHandoffRepository.attachHandoff a existing
              pure (w.put inquiry attached)
        | none => do
            let run ← authorize w inquiry a payload correlationId checkEvidence
            let row := handoffRow payload run w.nextId now
            let attached ← ConsultationHandoffRepository.attachHandoff
              { a with handoffs := a.handoffs ++ [row] } row
            pure { w.put inquiry attached with nextId := w.nextId + 1 }

end ConsultationHandoffService
end WaterCare.Service
