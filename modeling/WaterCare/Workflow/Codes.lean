import Mathlib.Data.List.Basic

/-!
The code values of the shipped contract: inquiry states, visit statuses,
events and guards, with the strings the documents use for them.
-/

namespace WaterCare.Workflow

inductive InquiryState
  | draft
  | questionnaireInProgress
  | aiGuidance
  | consultationRequired
  | consultationInProgress
  | visitReviewPending
  | visitScheduling
  | visitScheduled
  | completionPending
  | revisitRequired
  | reopened
  | resolved
  | cancelled
  deriving DecidableEq, Repr

namespace InquiryState

def code : InquiryState → String
  | draft => "DRAFT"
  | questionnaireInProgress => "QUESTIONNAIRE_IN_PROGRESS"
  | aiGuidance => "AI_GUIDANCE"
  | consultationRequired => "CONSULTATION_REQUIRED"
  | consultationInProgress => "CONSULTATION_IN_PROGRESS"
  | visitReviewPending => "VISIT_REVIEW_PENDING"
  | visitScheduling => "VISIT_SCHEDULING"
  | visitScheduled => "VISIT_SCHEDULED"
  | completionPending => "COMPLETION_PENDING"
  | revisitRequired => "REVISIT_REQUIRED"
  | reopened => "REOPENED"
  | resolved => "RESOLVED"
  | cancelled => "CANCELLED"

def all : List InquiryState :=
  [draft, questionnaireInProgress, aiGuidance, consultationRequired, consultationInProgress,
    visitReviewPending, visitScheduling, visitScheduled, completionPending, revisitRequired,
    reopened, resolved, cancelled]

theorem mem_all (c : InquiryState) : c ∈ all := by
  cases c <;> decide

end InquiryState

inductive VisitStatus
  | assigning
  | scheduling
  | confirmed
  | inProgress
  | completed
  | followUpRequired
  | cancelled
  deriving DecidableEq, Repr

namespace VisitStatus

def code : VisitStatus → String
  | assigning => "ASSIGNING"
  | scheduling => "SCHEDULING"
  | confirmed => "CONFIRMED"
  | inProgress => "IN_PROGRESS"
  | completed => "COMPLETED"
  | followUpRequired => "FOLLOW_UP_REQUIRED"
  | cancelled => "CANCELLED"

def all : List VisitStatus :=
  [assigning, scheduling, confirmed, inProgress, completed, followUpRequired, cancelled]

theorem mem_all (c : VisitStatus) : c ∈ all := by
  cases c <;> decide

end VisitStatus

inductive EventCode
  | startCarePrecheck
  | startInquiry
  | registerPhoneInquiry
  | productUpdated
  | submitSymptom
  | cancelInquiry
  | submitAnswers
  | customerReportedSelfResolved
  | requestConsultation
  | submitResolutionFeedback
  | customerReportedUnresolved
  | resumeConsultation
  | claimConsultation
  | startConsultation
  | consultationCompleted
  | visitReviewRequired
  | updateConsultationSummary
  | confirmConsultationSummary
  | visitNeeded
  | updateVisitSchedule
  | confirmVisit
  | updatePrevisitReport
  | confirmPrevisitReport
  | startVisit
  | visitCompleted
  | revisitNeeded
  | finalizeInquiry
  | productValidationFailed
  | safeGuidanceReady
  | humanReviewGuidanceApproved
  | humanReviewConsultationRequired
  | humanReviewRejected
  | dangerDetected
  | noEvidence
  | aiProcessingTimeout
  | visitNotNeeded
  deriving DecidableEq, Repr

namespace EventCode

def code : EventCode → String
  | startCarePrecheck => "START_CARE_PRECHECK"
  | startInquiry => "START_INQUIRY"
  | registerPhoneInquiry => "REGISTER_PHONE_INQUIRY"
  | productUpdated => "PRODUCT_UPDATED"
  | submitSymptom => "SUBMIT_SYMPTOM"
  | cancelInquiry => "CANCEL_INQUIRY"
  | submitAnswers => "SUBMIT_ANSWERS"
  | customerReportedSelfResolved => "CUSTOMER_REPORTED_SELF_RESOLVED"
  | requestConsultation => "REQUEST_CONSULTATION"
  | submitResolutionFeedback => "SUBMIT_RESOLUTION_FEEDBACK"
  | customerReportedUnresolved => "CUSTOMER_REPORTED_UNRESOLVED"
  | resumeConsultation => "RESUME_CONSULTATION"
  | claimConsultation => "CLAIM_CONSULTATION"
  | startConsultation => "START_CONSULTATION"
  | consultationCompleted => "CONSULTATION_COMPLETED"
  | visitReviewRequired => "VISIT_REVIEW_REQUIRED"
  | updateConsultationSummary => "UPDATE_CONSULTATION_SUMMARY"
  | confirmConsultationSummary => "CONFIRM_CONSULTATION_SUMMARY"
  | visitNeeded => "VISIT_NEEDED"
  | updateVisitSchedule => "UPDATE_VISIT_SCHEDULE"
  | confirmVisit => "CONFIRM_VISIT"
  | updatePrevisitReport => "UPDATE_PREVISIT_REPORT"
  | confirmPrevisitReport => "CONFIRM_PREVISIT_REPORT"
  | startVisit => "START_VISIT"
  | visitCompleted => "VISIT_COMPLETED"
  | revisitNeeded => "REVISIT_NEEDED"
  | finalizeInquiry => "FINALIZE_INQUIRY"
  | productValidationFailed => "PRODUCT_VALIDATION_FAILED"
  | safeGuidanceReady => "SAFE_GUIDANCE_READY"
  | humanReviewGuidanceApproved => "HUMAN_REVIEW_GUIDANCE_APPROVED"
  | humanReviewConsultationRequired => "HUMAN_REVIEW_CONSULTATION_REQUIRED"
  | humanReviewRejected => "HUMAN_REVIEW_REJECTED"
  | dangerDetected => "DANGER_DETECTED"
  | noEvidence => "NO_EVIDENCE"
  | aiProcessingTimeout => "AI_PROCESSING_TIMEOUT"
  | visitNotNeeded => "VISIT_NOT_NEEDED"

def all : List EventCode :=
  [startCarePrecheck, startInquiry, registerPhoneInquiry, productUpdated, submitSymptom,
    cancelInquiry, submitAnswers, customerReportedSelfResolved, requestConsultation,
    submitResolutionFeedback, customerReportedUnresolved, resumeConsultation, claimConsultation,
    startConsultation, consultationCompleted, visitReviewRequired, updateConsultationSummary,
    confirmConsultationSummary, visitNeeded, updateVisitSchedule, confirmVisit,
    updatePrevisitReport, confirmPrevisitReport, startVisit, visitCompleted, revisitNeeded,
    finalizeInquiry, productValidationFailed, safeGuidanceReady, humanReviewGuidanceApproved,
    humanReviewConsultationRequired, humanReviewRejected, dangerDetected, noEvidence,
    aiProcessingTimeout, visitNotNeeded]

theorem mem_all (c : EventCode) : c ∈ all := by
  cases c <;> decide

end EventCode

inductive GuardId
  | actorCustomer
  | actorConsultant
  | actorTechnician
  | actorSystem
  | actorLastHandler
  | inquiryOwner
  | customerProductOwnership
  | consultantPhoneSubscription
  | assignedConsultant
  | unassignedConsultationClaimable
  | assignedTechnician
  | assignedTechnicianPresent
  | cancelActorAuthorized
  | stateVersion
  | idempotencyKey
  | symptomPayloadValid
  | followupAnswersValid
  | cancellationReason
  | consultationSummaryPayloadValid
  | consultationSummaryConfirmable
  | consultationResultComplete
  | visitReviewPayloadValid
  | visitHandoffComplete
  | visitSchedulePayloadValid
  | confirmedVisitDate
  | previsitReportPayloadValid
  | previsitReportConfirmable
  | visitResultComplete
  | revisitReason
  | resolutionFeedbackResolved
  | noFreshResolvedCustomerFeedback
  | unresolvedFeedbackValid
  | finalizationPayloadValid
  | productValidationFailed
  | safeGuidanceValid
  | officialEvidenceAvailable
  | noDangerConflict
  | dangerAssessmentValid
  | noUsableEvidence
  | aiProcessingTimeoutValid
  | humanReviewGuidanceApproved
  | humanReviewConsultationRequired
  | humanReviewRejected
  | selfResolutionAllowed
  | resolvedCustomerFeedbackExists
  | visitNotNeededResultComplete
  deriving DecidableEq, Repr

namespace GuardId

def code : GuardId → String
  | actorCustomer => "G-ACTOR-CUSTOMER"
  | actorConsultant => "G-ACTOR-CONSULTANT"
  | actorTechnician => "G-ACTOR-TECHNICIAN"
  | actorSystem => "G-ACTOR-SYSTEM"
  | actorLastHandler => "G-ACTOR-LAST-HANDLER"
  | inquiryOwner => "G-INQUIRY-OWNER"
  | customerProductOwnership => "G-CUSTOMER-PRODUCT-OWNERSHIP"
  | consultantPhoneSubscription => "G-CONSULTANT-PHONE-SUBSCRIPTION"
  | assignedConsultant => "G-ASSIGNED-CONSULTANT"
  | unassignedConsultationClaimable => "G-UNASSIGNED-CONSULTATION-CLAIMABLE"
  | assignedTechnician => "G-ASSIGNED-TECHNICIAN"
  | assignedTechnicianPresent => "G-ASSIGNED-TECHNICIAN-PRESENT"
  | cancelActorAuthorized => "G-CANCEL-ACTOR-AUTHORIZED"
  | stateVersion => "G-STATE-VERSION"
  | idempotencyKey => "G-IDEMPOTENCY-KEY"
  | symptomPayloadValid => "G-SYMPTOM-PAYLOAD-VALID"
  | followupAnswersValid => "G-FOLLOWUP-ANSWERS-VALID"
  | cancellationReason => "G-CANCELLATION-REASON"
  | consultationSummaryPayloadValid => "G-CONSULTATION-SUMMARY-PAYLOAD-VALID"
  | consultationSummaryConfirmable => "G-CONSULTATION-SUMMARY-CONFIRMABLE"
  | consultationResultComplete => "G-CONSULTATION-RESULT-COMPLETE"
  | visitReviewPayloadValid => "G-VISIT-REVIEW-PAYLOAD-VALID"
  | visitHandoffComplete => "G-VISIT-HANDOFF-COMPLETE"
  | visitSchedulePayloadValid => "G-VISIT-SCHEDULE-PAYLOAD-VALID"
  | confirmedVisitDate => "G-CONFIRMED-VISIT-DATE"
  | previsitReportPayloadValid => "G-PREVISIT-REPORT-PAYLOAD-VALID"
  | previsitReportConfirmable => "G-PREVISIT-REPORT-CONFIRMABLE"
  | visitResultComplete => "G-VISIT-RESULT-COMPLETE"
  | revisitReason => "G-REVISIT-REASON"
  | resolutionFeedbackResolved => "G-RESOLUTION-FEEDBACK-RESOLVED"
  | noFreshResolvedCustomerFeedback => "G-NO-FRESH-RESOLVED-CUSTOMER-FEEDBACK"
  | unresolvedFeedbackValid => "G-UNRESOLVED-FEEDBACK-VALID"
  | finalizationPayloadValid => "G-FINALIZATION-PAYLOAD-VALID"
  | productValidationFailed => "G-PRODUCT-VALIDATION-FAILED"
  | safeGuidanceValid => "G-SAFE-GUIDANCE-VALID"
  | officialEvidenceAvailable => "G-OFFICIAL-EVIDENCE-AVAILABLE"
  | noDangerConflict => "G-NO-DANGER-CONFLICT"
  | dangerAssessmentValid => "G-DANGER-ASSESSMENT-VALID"
  | noUsableEvidence => "G-NO-USABLE-EVIDENCE"
  | aiProcessingTimeoutValid => "G-AI-PROCESSING-TIMEOUT-VALID"
  | humanReviewGuidanceApproved => "G-HUMAN-REVIEW-GUIDANCE-APPROVED"
  | humanReviewConsultationRequired => "G-HUMAN-REVIEW-CONSULTATION-REQUIRED"
  | humanReviewRejected => "G-HUMAN-REVIEW-REJECTED"
  | selfResolutionAllowed => "G-SELF-RESOLUTION-ALLOWED"
  | resolvedCustomerFeedbackExists => "G-RESOLVED-CUSTOMER-FEEDBACK-EXISTS"
  | visitNotNeededResultComplete => "G-VISIT-NOT-NEEDED-RESULT-COMPLETE"

def all : List GuardId :=
  [actorCustomer, actorConsultant, actorTechnician, actorSystem, actorLastHandler, inquiryOwner,
    customerProductOwnership, consultantPhoneSubscription, assignedConsultant,
    unassignedConsultationClaimable, assignedTechnician, assignedTechnicianPresent,
    cancelActorAuthorized, stateVersion, idempotencyKey, symptomPayloadValid,
    followupAnswersValid, cancellationReason, consultationSummaryPayloadValid,
    consultationSummaryConfirmable, consultationResultComplete, visitReviewPayloadValid,
    visitHandoffComplete, visitSchedulePayloadValid, confirmedVisitDate,
    previsitReportPayloadValid, previsitReportConfirmable, visitResultComplete, revisitReason,
    resolutionFeedbackResolved, noFreshResolvedCustomerFeedback, unresolvedFeedbackValid,
    finalizationPayloadValid, productValidationFailed, safeGuidanceValid,
    officialEvidenceAvailable, noDangerConflict, dangerAssessmentValid, noUsableEvidence,
    aiProcessingTimeoutValid, humanReviewGuidanceApproved, humanReviewConsultationRequired,
    humanReviewRejected, selfResolutionAllowed, resolvedCustomerFeedbackExists,
    visitNotNeededResultComplete]

theorem mem_all (c : GuardId) : c ∈ all := by
  cases c <;> decide

end GuardId

end WaterCare.Workflow

