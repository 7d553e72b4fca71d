import WaterCare.Workflow.Refinement

/-!
The shipped contract: `inquiry-states.yaml`, `inquiry-events.yaml`,
`transition-rules.yaml` and `transition-guards.yaml` over the codes, entry by
entry and in the order of the documents.
-/

namespace WaterCare.Workflow

namespace Shipped

def allowedVisitStatuses : InquiryState → List VisitStatus
  | .visitReviewPending => [.assigning]
  | .visitScheduling => [.assigning, .scheduling]
  | .visitScheduled => [.confirmed, .inProgress]
  | .completionPending => [.completed]
  | .revisitRequired => [.followUpRequired]
  | .reopened => [.completed, .followUpRequired]
  | .resolved => [.completed]
  | .cancelled => [.cancelled]
  | .draft | .questionnaireInProgress | .aiGuidance | .consultationRequired
  | .consultationInProgress => []

def eventContract : EventCode → EventContract
  | .startCarePrecheck | .startInquiry | .productUpdated =>
      ⟨.customer, [], true, false⟩
  | .registerPhoneInquiry =>
      ⟨.consultant, [], true, false⟩
  | .submitSymptom | .submitAnswers | .customerReportedSelfResolved | .requestConsultation
  | .submitResolutionFeedback | .customerReportedUnresolved =>
      ⟨.customer, [], true, true⟩
  | .cancelInquiry =>
      ⟨.customer, [.consultant, .operator], true, true⟩
  | .resumeConsultation | .claimConsultation | .startConsultation | .consultationCompleted
  | .visitReviewRequired | .updateConsultationSummary | .confirmConsultationSummary | .visitNeeded
  | .updateVisitSchedule | .confirmVisit | .visitNotNeeded =>
      ⟨.consultant, [], true, true⟩
  | .updatePrevisitReport | .confirmPrevisitReport | .startVisit | .visitCompleted
  | .revisitNeeded =>
      ⟨.technician, [], true, true⟩
  | .finalizeInquiry =>
      ⟨.consultant, [.technician], true, true⟩
  | .productValidationFailed | .safeGuidanceReady | .humanReviewGuidanceApproved
  | .humanReviewConsultationRequired | .humanReviewRejected | .dangerDetected | .noEvidence
  | .aiProcessingTimeout =>
      ⟨.system, [], false, true⟩

def guardContract : GuardId → GuardContract
  | .actorCustomer =>
      ⟨.role, 403, "CUSTOMER_ROLE_REQUIRED",
        "고객 권한이 필요한 작업입니다."⟩
  | .actorConsultant =>
      ⟨.role, 403, "CONSULTANT_ROLE_REQUIRED",
        "상담사 권한이 필요한 작업입니다."⟩
  | .actorTechnician =>
      ⟨.role, 403, "TECHNICIAN_ROLE_REQUIRED",
        "방문기사 권한이 필요한 작업입니다."⟩
  | .actorSystem =>
      ⟨.role, 403, "INTERNAL_EVENT_ONLY",
        "내부 처리 전용 이벤트입니다."⟩
  | .actorLastHandler =>
      ⟨.assignment, 403, "FINALIZATION_HANDLER_MISMATCH",
        "해당 처리의 담당자만 문의를 최종 완료할 수 있습니다."⟩
  | .inquiryOwner =>
      ⟨.resourceAccess, 404, "RESOURCE_NOT_FOUND",
        "문의를 찾을 수 없습니다."⟩
  | .customerProductOwnership =>
      ⟨.resourceAccess, 404, "PRODUCT_NOT_FOUND",
        "사용할 수 있는 등록 제품을 찾을 수 없습니다."⟩
  | .consultantPhoneSubscription =>
      ⟨.resourceAccess, 404, "RESOURCE_NOT_FOUND",
        "사용할 수 있는 구독 정보를 찾을 수 없습니다."⟩
  | .assignedConsultant =>
      ⟨.resourceAccess, 404, "RESOURCE_NOT_FOUND",
        "문의를 찾을 수 없습니다."⟩
  | .unassignedConsultationClaimable =>
      ⟨.resourceAccess, 404, "RESOURCE_NOT_FOUND",
        "문의를 찾을 수 없습니다."⟩
  | .assignedTechnician =>
      ⟨.resourceAccess, 404, "RESOURCE_NOT_FOUND",
        "방문 정보를 찾을 수 없습니다."⟩
  | .assignedTechnicianPresent =>
      ⟨.businessRule, 422, "ASSIGNED_TECHNICIAN_REQUIRED",
        "방문을 확정하려면 담당 기사를 배정해야 합니다."⟩
  | .cancelActorAuthorized =>
      ⟨.resourceAccess, 403, "INQUIRY_CANCEL_FORBIDDEN",
        "이 문의를 취소할 권한이 없습니다."⟩
  | .stateVersion =>
      ⟨.concurrency, 409, "STATE_VERSION_CONFLICT",
        "문의 상태가 변경되었습니다. 최신 정보를 확인한 뒤 다시 시도해 주세요."⟩
  | .idempotencyKey =>
      ⟨.idempotency, 409, "IDEMPOTENCY_KEY_REUSE_CONFLICT",
        "동일한 멱등성 키가 다른 요청에 이미 사용되었습니다."⟩
  | .symptomPayloadValid =>
      ⟨.payload, 422, "INVALID_SYMPTOM_PAYLOAD",
        "증상 내용을 확인해 주세요."⟩
  | .followupAnswersValid =>
      ⟨.payload, 422, "INVALID_FOLLOWUP_ANSWERS",
        "추가 답변 형식을 확인해 주세요."⟩
  | .cancellationReason =>
      ⟨.payload, 422, "INVALID_CANCELLATION_REASON",
        "취소 사유를 확인해 주세요."⟩
  | .consultationSummaryPayloadValid =>
      ⟨.payload, 422, "INVALID_CONSULTATION_SUMMARY",
        "상담 요약 내용을 확인해 주세요."⟩
  | .consultationSummaryConfirmable =>
      ⟨.businessRule, 422, "CONSULTATION_SUMMARY_NOT_CONFIRMABLE",
        "확정할 상담 요약을 먼저 작성해 주세요."⟩
  | .consultationResultComplete =>
      ⟨.completion, 422, "CONSULTATION_RESULT_INCOMPLETE",
        "상담 결과와 확정 요약을 모두 입력해 주세요."⟩
  | .visitReviewPayloadValid =>
      ⟨.payload, 422, "INVALID_VISIT_REVIEW_PAYLOAD",
        "방문 검토 사유와 상담 요약을 확인해 주세요."⟩
  | .visitHandoffComplete =>
      ⟨.completion, 422, "VISIT_HANDOFF_INCOMPLETE",
        "방문 인계에 필요한 정보를 모두 입력해 주세요."⟩
  | .visitSchedulePayloadValid =>
      ⟨.payload, 422, "INVALID_VISIT_SCHEDULE",
        "방문 일정과 담당 기사 정보를 확인해 주세요."⟩
  | .confirmedVisitDate =>
      ⟨.businessRule, 422, "CONFIRMED_VISIT_DATE_REQUIRED",
        "방문 확정 일정을 먼저 입력해 주세요."⟩
  | .previsitReportPayloadValid =>
      ⟨.payload, 422, "INVALID_PREVISIT_REPORT",
        "기사 사전 리포트 내용을 확인해 주세요."⟩
  | .previsitReportConfirmable =>
      ⟨.businessRule, 422, "PREVISIT_REPORT_NOT_CONFIRMABLE",
        "확정할 사전 리포트를 먼저 작성해 주세요."⟩
  | .visitResultComplete =>
      ⟨.completion, 422, "VISIT_RESULT_INCOMPLETE",
        "방문 처리 결과를 모두 입력해 주세요."⟩
  | .revisitReason =>
      ⟨.payload, 422, "REVISIT_REASON_REQUIRED",
        "추가 방문 사유를 입력해 주세요."⟩
  | .resolutionFeedbackResolved =>
      ⟨.payload, 422, "INVALID_RESOLVED_FEEDBACK",
        "해결 여부와 의견을 확인해 주세요."⟩
  | .noFreshResolvedCustomerFeedback =>
      ⟨.completion, 409, "STATE-CONFLICT-01",
        "이미 처리된 고객 확인입니다. 최신 문의 상태를 확인해 주세요."⟩
  | .unresolvedFeedbackValid =>
      ⟨.payload, 422, "INVALID_UNRESOLVED_FEEDBACK",
        "미해결 사유를 확인해 주세요."⟩
  | .finalizationPayloadValid =>
      ⟨.payload, 422, "INVALID_FINALIZATION_PAYLOAD",
        "최종 완료 내용을 확인해 주세요."⟩
  | .productValidationFailed =>
      ⟨.businessRule, 409, "PRODUCT_VALIDATION_EVENT_MISMATCH",
        "제품 검증 결과와 이벤트가 일치하지 않습니다."⟩
  | .safeGuidanceValid =>
      ⟨.safetyAndEvidence, 409, "SAFE_GUIDANCE_PRECONDITION_FAILED",
        "안전 안내 전환 조건을 충족하지 못했습니다."⟩
  | .officialEvidenceAvailable =>
      ⟨.safetyAndEvidence, 409, "OFFICIAL_EVIDENCE_REQUIRED",
        "사용할 수 있는 공식 근거가 없습니다."⟩
  | .noDangerConflict =>
      ⟨.safetyAndEvidence, 409, "DANGER_RESULT_CONFLICT",
        "위험 판정과 안전 안내 결과가 충돌합니다."⟩
  | .dangerAssessmentValid =>
      ⟨.safetyAndEvidence, 409, "DANGER_EVENT_PRECONDITION_FAILED",
        "위험 감지 전환 조건을 충족하지 못했습니다."⟩
  | .noUsableEvidence =>
      ⟨.safetyAndEvidence, 409, "NO_EVIDENCE_EVENT_PRECONDITION_FAILED",
        "근거 없음 전환 조건을 충족하지 못했습니다."⟩
  | .aiProcessingTimeoutValid =>
      ⟨.safetyAndEvidence, 409, "AI_PROCESSING_TIMEOUT_PRECONDITION_FAILED",
        "AI 처리 시간 초과 전환 조건을 충족하지 못했습니다."⟩
  | .humanReviewGuidanceApproved =>
      ⟨.safetyAndEvidence, 409, "HUMAN_REVIEW_APPROVAL_PRECONDITION_FAILED",
        "검토 승인 안내 전환 조건을 충족하지 못했습니다."⟩
  | .humanReviewConsultationRequired =>
      ⟨.safetyAndEvidence, 409, "HUMAN_REVIEW_CONSULTATION_PRECONDITION_FAILED",
        "검토 후 상담 전환 조건을 충족하지 못했습니다."⟩
  | .humanReviewRejected =>
      ⟨.safetyAndEvidence, 409, "HUMAN_REVIEW_REJECTION_PRECONDITION_FAILED",
        "검토 거절 전환 조건을 충족하지 못했습니다."⟩
  | .selfResolutionAllowed =>
      ⟨.completion, 422, "SELF_RESOLUTION_NOT_ALLOWED",
        "현재 문의는 자가 해결로 완료할 수 없습니다."⟩
  | .resolvedCustomerFeedbackExists =>
      ⟨.completion, 422, "RESOLVED_CUSTOMER_FEEDBACK_REQUIRED",
        "고객의 해결 확인 후 최종 완료할 수 있습니다."⟩
  | .visitNotNeededResultComplete =>
      ⟨.completion, 422, "VISIT_NOT_NEEDED_RESULT_INCOMPLETE",
        "방문 불필요 판단 사유와 확정 상담 요약을 확인해 주세요."⟩

/-- The identifier of a transition rule. -/
private def ruleId (number : String) : String := "TR-INQ-" ++ number

def transitions : List TransitionRule :=
  [ ⟨ruleId "001", .startInquiry, none, .draft,
      .requireAbsent, true, false, true,
      [.actorCustomer, .customerProductOwnership, .idempotencyKey],
      ["CREATE_INQUIRY", "LINK_OPTIONAL_QUESTIONNAIRE_SESSION"]⟩,
    ⟨ruleId "035", .registerPhoneInquiry, none, .consultationRequired,
      .requireAbsent, true, false, true,
      [.actorConsultant, .consultantPhoneSubscription, .idempotencyKey],
      ["CREATE_INQUIRY", "ASSIGN_CURRENT_CONSULTANT", "STORE_PHONE_INTAKE",
        "SET_REQUIRES_CONSULTATION"]⟩,
    ⟨ruleId "002", .submitSymptom, some .draft, .questionnaireInProgress,
      .requireAbsent, true, false, true,
      [.actorCustomer, .inquiryOwner, .stateVersion, .idempotencyKey, .symptomPayloadValid],
      ["STORE_CUSTOMER_SYMPTOM_INPUT", "MARK_QUESTIONNAIRE_SUBMITTED", "REQUEST_AI_STRUCTURING"]⟩,
    ⟨ruleId "003", .submitAnswers, some .questionnaireInProgress, .questionnaireInProgress,
      .requireAbsent, false, false, true,
      [.actorCustomer, .inquiryOwner, .stateVersion, .idempotencyKey, .followupAnswersValid],
      ["APPEND_QUESTIONNAIRE_ANSWERS", "REQUEST_AI_REEVALUATION"]⟩,
    ⟨ruleId "004", .cancelInquiry, some .draft, .cancelled,
      .requireAbsent, true, false, true,
      [.cancelActorAuthorized, .stateVersion, .idempotencyKey, .cancellationReason],
      ["CANCEL_ACTIVE_AI_PROCESS_IF_PRESENT", "SET_CANCELLED_AT"]⟩,
    ⟨ruleId "005", .cancelInquiry, some .questionnaireInProgress, .cancelled,
      .requireAbsent, true, false, true,
      [.cancelActorAuthorized, .stateVersion, .idempotencyKey, .cancellationReason],
      ["CANCEL_ACTIVE_AI_PROCESS_IF_PRESENT", "SET_CANCELLED_AT"]⟩,
    ⟨ruleId "006", .productValidationFailed, some .draft, .consultationRequired,
      .requireAbsent, true, false, true,
      [.actorSystem, .stateVersion, .productValidationFailed],
      ["BLOCK_AI_AND_RAG", "PRESERVE_CUSTOMER_INPUT", "SET_REQUIRES_CONSULTATION",
        "SET_USAGE_GUIDANCE_PENDING_CONSULTATION"]⟩,
    ⟨ruleId "007", .productValidationFailed, some .questionnaireInProgress, .consultationRequired,
      .requireAbsent, true, false, true,
      [.actorSystem, .stateVersion, .productValidationFailed],
      ["BLOCK_AI_AND_RAG", "PRESERVE_CUSTOMER_INPUT", "SET_REQUIRES_CONSULTATION",
        "SET_USAGE_GUIDANCE_PENDING_CONSULTATION"]⟩,
    ⟨ruleId "008", .safeGuidanceReady, some .questionnaireInProgress, .aiGuidance,
      .requireAbsent, true, false, true,
      [.actorSystem, .stateVersion, .safeGuidanceValid, .officialEvidenceAvailable,
        .noDangerConflict],
      ["STORE_VALIDATED_GUIDANCE", "STORE_VALIDATED_EVIDENCE_REFERENCES"]⟩,
    ⟨ruleId "040", .humanReviewGuidanceApproved, some .questionnaireInProgress, .aiGuidance,
      .requireAbsent, true, false, true,
      [.actorSystem, .stateVersion, .humanReviewGuidanceApproved],
      ["STORE_HUMAN_APPROVED_GUIDANCE", "STORE_VALIDATED_EVIDENCE_REFERENCES",
        "SET_EFFECTIVE_REQUIRES_CONSULTATION_FALSE"]⟩,
    ⟨ruleId "041", .humanReviewConsultationRequired, some .questionnaireInProgress,
      .consultationRequired,
      .requireAbsent, true, false, true,
      [.actorSystem, .stateVersion, .humanReviewConsultationRequired],
      ["STORE_HUMAN_APPROVED_GUIDANCE", "STORE_VALIDATED_EVIDENCE_REFERENCES",
        "SET_EFFECTIVE_REQUIRES_CONSULTATION_TRUE", "UPSERT_CONSULTATION_REQUEST"]⟩,
    ⟨ruleId "042", .humanReviewRejected, some .questionnaireInProgress, .consultationRequired,
      .requireAbsent, true, false, true,
      [.actorSystem, .stateVersion, .humanReviewRejected],
      ["HIDE_REJECTED_GUIDANCE", "SET_EFFECTIVE_REQUIRES_CONSULTATION_TRUE",
        "UPSERT_CONSULTATION_REQUEST"]⟩,
    ⟨ruleId "009", .dangerDetected, some .questionnaireInProgress, .consultationRequired,
      .requireAbsent, true, false, true,
      [.actorSystem, .stateVersion, .dangerAssessmentValid],
      ["BLOCK_GENERAL_SELF_GUIDANCE", "SET_REQUIRES_CONSULTATION", "STORE_USAGE_RESTRICTION"]⟩,
    ⟨ruleId "010", .noEvidence, some .questionnaireInProgress, .consultationRequired,
      .requireAbsent, true, false, true,
      [.actorSystem, .stateVersion, .noUsableEvidence],
      ["BLOCK_UNGROUNDED_GUIDANCE", "SET_REQUIRES_CONSULTATION",
        "SET_USAGE_GUIDANCE_PENDING_CONSULTATION"]⟩,
    ⟨ruleId "036", .aiProcessingTimeout, some .questionnaireInProgress, .consultationRequired,
      .requireAbsent, true, false, true,
      [.actorSystem, .stateVersion, .aiProcessingTimeoutValid],
      ["PRESERVE_CUSTOMER_INPUT", "SET_REQUIRES_CONSULTATION",
        "SET_USAGE_GUIDANCE_PENDING_CONSULTATION", "DO_NOT_CREATE_CONSULTATION"]⟩,
    ⟨ruleId "011", .customerReportedSelfResolved, some .aiGuidance, .resolved,
      .requireAbsent, true, false, true,
      [.actorCustomer, .inquiryOwner, .stateVersion, .idempotencyKey, .selfResolutionAllowed],
      ["STORE_SELF_RESOLUTION_RESULT", "SET_RESOLVED_AT", "SET_COMPLETION_SOURCE_SELF_SERVICE"]⟩,
    ⟨ruleId "012", .requestConsultation, some .aiGuidance, .consultationRequired,
      .requireAbsent, true, false, true,
      [.actorCustomer, .inquiryOwner, .stateVersion, .idempotencyKey],
      ["UPSERT_CONSULTATION_REQUEST"]⟩,
    ⟨ruleId "013", .requestConsultation, some .consultationRequired, .consultationRequired,
      .requireAbsent, false, false, true,
      [.actorCustomer, .inquiryOwner, .stateVersion, .idempotencyKey],
      ["RECORD_CUSTOMER_CONSULTATION_CONFIRMATION", "UPSERT_CONSULTATION_REQUEST"]⟩,
    ⟨ruleId "014", .startConsultation, some .consultationRequired, .consultationInProgress,
      .preserve, true, false, true,
      [.actorConsultant, .assignedConsultant, .stateVersion, .idempotencyKey],
      ["SET_CONSULTATION_STARTED_AT"]⟩,
    ⟨ruleId "015", .updateConsultationSummary, some .consultationInProgress,
      .consultationInProgress,
      .preserve, false, false, true,
      [.actorConsultant, .assignedConsultant, .stateVersion, .idempotencyKey,
        .consultationSummaryPayloadValid],
      ["UPDATE_CONSULTANT_EDITED_SUMMARY"]⟩,
    ⟨ruleId "016", .confirmConsultationSummary, some .consultationInProgress,
      .consultationInProgress,
      .preserve, false, false, true,
      [.actorConsultant, .assignedConsultant, .stateVersion, .idempotencyKey,
        .consultationSummaryConfirmable],
      ["CONFIRM_CONSULTANT_SUMMARY"]⟩,
    ⟨ruleId "017", .consultationCompleted, some .consultationInProgress, .completionPending,
      .preserve, true, false, true,
      [.actorConsultant, .assignedConsultant, .stateVersion, .idempotencyKey,
        .consultationResultComplete],
      ["SET_CONSULTATION_COMPLETED_AT", "SET_COMPLETION_SOURCE_CONSULTATION",
        "CLEAR_PREVIOUS_RESOLUTION_FEEDBACK"]⟩,
    ⟨ruleId "018", .visitReviewRequired, some .consultationInProgress, .visitReviewPending,
      .requireAbsent, true, false, true,
      [.actorConsultant, .assignedConsultant, .stateVersion, .idempotencyKey,
        .visitReviewPayloadValid],
      ["STORE_VISIT_REVIEW_REASON"]⟩,
    ⟨ruleId "019", .visitNeeded, some .visitReviewPending, .visitScheduling,
      .create .assigning, true, true, true,
      [.actorConsultant, .assignedConsultant, .stateVersion, .idempotencyKey,
        .visitHandoffComplete],
      ["CREATE_VISIT_REQUEST", "STORE_CUSTOMER_PREFERRED_DATE", "STORE_VISIT_HANDOFF"]⟩,
    ⟨ruleId "020", .updateVisitSchedule, some .visitScheduling, .visitScheduling,
      .transition .assigning .scheduling, false, true, true,
      [.actorConsultant, .assignedConsultant, .stateVersion, .idempotencyKey,
        .visitSchedulePayloadValid],
      ["UPDATE_VISIT_ASSIGNMENT_AND_SCHEDULE"]⟩,
    ⟨ruleId "021", .updateVisitSchedule, some .visitScheduling, .visitScheduling,
      .transition .scheduling .scheduling, false, false, true,
      [.actorConsultant, .assignedConsultant, .stateVersion, .idempotencyKey,
        .visitSchedulePayloadValid],
      ["UPDATE_VISIT_ASSIGNMENT_AND_SCHEDULE"]⟩,
    ⟨ruleId "022", .confirmVisit, some .visitScheduling, .visitScheduled,
      .transition .scheduling .confirmed, true, true, true,
      [.actorConsultant, .assignedConsultant, .stateVersion, .idempotencyKey, .confirmedVisitDate,
        .assignedTechnicianPresent],
      ["SET_VISIT_CONFIRMED_AT"]⟩,
    ⟨ruleId "023", .updatePrevisitReport, some .visitScheduled, .visitScheduled,
      .preserveRequireStatus .confirmed, false, false, true,
      [.actorTechnician, .assignedTechnician, .stateVersion, .idempotencyKey,
        .previsitReportPayloadValid],
      ["UPDATE_TECHNICIAN_EDITED_REPORT"]⟩,
    ⟨ruleId "024", .confirmPrevisitReport, some .visitScheduled, .visitScheduled,
      .preserveRequireStatus .confirmed, false, false, true,
      [.actorTechnician, .assignedTechnician, .stateVersion, .idempotencyKey,
        .previsitReportConfirmable],
      ["CONFIRM_TECHNICIAN_REPORT"]⟩,
    ⟨ruleId "025", .startVisit, some .visitScheduled, .visitScheduled,
      .transition .confirmed .inProgress, false, true, true,
      [.actorTechnician, .assignedTechnician, .stateVersion, .idempotencyKey],
      ["SET_VISIT_STARTED_AT"]⟩,
    ⟨ruleId "026", .visitCompleted, some .visitScheduled, .completionPending,
      .transition .inProgress .completed, true, true, true,
      [.actorTechnician, .assignedTechnician, .stateVersion, .idempotencyKey,
        .visitResultComplete],
      ["STORE_VISIT_RESULT", "SET_VISIT_COMPLETED_AT", "SET_COMPLETION_SOURCE_VISIT",
        "UPDATE_CARE_HISTORY", "CLEAR_PREVIOUS_RESOLUTION_FEEDBACK"]⟩,
    ⟨ruleId "027", .revisitNeeded, some .visitScheduled, .revisitRequired,
      .transition .inProgress .followUpRequired, true, true, true,
      [.actorTechnician, .assignedTechnician, .stateVersion, .idempotencyKey, .revisitReason],
      ["STORE_REVISIT_REASON"]⟩,
    ⟨ruleId "028", .updateVisitSchedule, some .revisitRequired, .visitScheduling,
      .transition .followUpRequired .scheduling, true, true, true,
      [.actorConsultant, .assignedConsultant, .stateVersion, .idempotencyKey,
        .visitSchedulePayloadValid],
      ["UPDATE_REVISIT_SCHEDULE"]⟩,
    ⟨ruleId "029", .submitResolutionFeedback, some .completionPending, .completionPending,
      .preserve, false, false, true,
      [.actorCustomer, .inquiryOwner, .stateVersion, .idempotencyKey,
        .noFreshResolvedCustomerFeedback, .resolutionFeedbackResolved],
      ["STORE_RESOLVED_CUSTOMER_FEEDBACK"]⟩,
    ⟨ruleId "030", .customerReportedUnresolved, some .completionPending, .reopened,
      .preserve, true, false, true,
      [.actorCustomer, .inquiryOwner, .stateVersion, .idempotencyKey, .unresolvedFeedbackValid],
      ["STORE_UNRESOLVED_CUSTOMER_FEEDBACK", "CLEAR_FINALIZATION_ELIGIBILITY"]⟩,
    ⟨ruleId "031", .requestConsultation, some .completionPending, .consultationRequired,
      .preserve, true, false, true,
      [.actorCustomer, .inquiryOwner, .stateVersion, .idempotencyKey,
        .noFreshResolvedCustomerFeedback],
      ["UPSERT_CONSULTATION_REQUEST", "CLEAR_FINALIZATION_ELIGIBILITY"]⟩,
    ⟨ruleId "032", .resumeConsultation, some .reopened, .consultationRequired,
      .preserve, true, false, true,
      [.actorConsultant, .stateVersion, .idempotencyKey],
      ["RESTORE_TO_CONSULTATION_QUEUE"]⟩,
    ⟨ruleId "033", .finalizeInquiry, some .completionPending, .resolved,
      .preserve, true, false, true,
      [.actorLastHandler, .stateVersion, .idempotencyKey, .resolvedCustomerFeedbackExists,
        .finalizationPayloadValid],
      ["SET_RESOLVED_AT", "STORE_FINALIZED_BY"]⟩,
    ⟨ruleId "034", .visitNotNeeded, some .visitReviewPending, .completionPending,
      .requireAbsent, true, false, true,
      [.actorConsultant, .assignedConsultant, .stateVersion, .idempotencyKey,
        .visitNotNeededResultComplete],
      ["STORE_VISIT_NOT_NEEDED_REASON", "SET_CONSULTATION_RESULT_COMPLETED_NO_VISIT",
        "SET_CONSULTATION_COMPLETED_AT", "SET_COMPLETION_SOURCE_CONSULTATION",
        "CLEAR_PREVIOUS_RESOLUTION_FEEDBACK"]⟩,
    ⟨ruleId "037", .claimConsultation, some .consultationRequired, .consultationRequired,
      .preserve, false, false, true,
      [.actorConsultant, .unassignedConsultationClaimable, .stateVersion, .idempotencyKey],
      ["ASSIGN_CURRENT_CONSULTANT", "ASSIGN_WAITING_CONSULTATION"]⟩,
    ⟨ruleId "038", .cancelInquiry, some .consultationRequired, .cancelled,
      .requireAbsent, true, false, true,
      [.cancelActorAuthorized, .stateVersion, .idempotencyKey, .cancellationReason],
      ["CANCEL_ACTIVE_AI_PROCESS_IF_PRESENT", "CANCEL_ACTIVE_CONSULTATION_IF_PRESENT",
        "SET_CANCELLED_AT"]⟩,
    ⟨ruleId "039", .cancelInquiry, some .consultationInProgress, .cancelled,
      .requireAbsent, true, false, true,
      [.cancelActorAuthorized, .stateVersion, .idempotencyKey, .cancellationReason],
      ["CANCEL_ACTIVE_AI_PROCESS_IF_PRESENT", "CANCEL_ACTIVE_CONSULTATION_IF_PRESENT",
        "SET_CANCELLED_AT"]⟩ ]

end Shipped

/-- The contract the repository ships. -/
def shipped : WorkflowContract where
  terminalStates := [.resolved, .cancelled]
  allowedVisitStatuses := Shipped.allowedVisitStatuses
  transitions := Shipped.transitions
  events := Shipped.eventContract
  guards := Shipped.guardContract
  guardCategories := [.authentication, .role, .resourceAccess, .assignment, .concurrency,
    .idempotency, .payload, .businessRule, .safetyAndEvidence, .completion]
  securityPrecedence := [.authentication, .role, .resourceAccess, .concurrency, .idempotency,
    .payload, .businessRule, .safetyAndEvidence, .completion]

theorem shipped_open : shipped.Open := by decide

end WaterCare.Workflow
