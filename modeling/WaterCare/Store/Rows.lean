import WaterCare.Analysis.Payload
import WaterCare.Py.Value

/-!
The rows of the Backend tables the services read and write, with the check
constraints of their models. A stored row carries the proof that it passed them.
-/

namespace WaterCare.Store
open Workflow Analysis Py

/-- A point in time, as `timezone.now()` returns it. -/
abbrev Instant := Nat

/-- A calendar day. -/
abbrev Day := Nat

/-- The check constraints of a table, as the database decides them for one row. -/
class Table (α : Type) where
  accepts : α → Bool

/-- A row that the database has accepted. -/
abbrev Stored (α : Type) [Table α] : Type := { row : α // Table.accepts row = true }

/-! ### Accounts and subscriptions -/

structure User where
  id : Nat
  username : String
  role : UserRole
  isActive : Bool
  isSynthetic : Bool
  isStaff : Bool
  isSuperuser : Bool
  hasUsablePassword : Bool
  mayCancelInquiry : Bool
  fullName : String
  phone : String
  deriving DecidableEq, Repr

structure Customer where
  id : Nat
  user : Option Nat
  isSynthetic : Bool
  deletedAt : Option Instant
  deriving DecidableEq, Repr

/-- `customer_profile_synthetic_only`. -/
instance : Table Customer where
  accepts c := c.isSynthetic

structure Subscription where
  id : Nat
  contractNo : String
  customer : Nat
  modelCode : String
  status : SubscriptionStatus
  deriving DecidableEq, Repr

/-! ### Questionnaire sessions -/

structure QuestionnaireSession where
  id : Nat
  subscription : Nat
  inquiry : Option Nat
  status : SessionStatus
  answersPayload : Dict
  stateVersion : Nat
  startedAt : Instant
  submittedAt : Option Instant
  linkedAt : Option Instant
  creationIdempotencyKey : String

namespace QuestionnaireSession
variable (s : QuestionnaireSession)

/-- `ck_qsession_submission`. -/
def submission : Bool :=
  match s.status with
  | .unanswered | .inProgress => s.submittedAt.isNone
  | .submitted => s.submittedAt.any fun submitted => decide (s.startedAt ≤ submitted)

/-- `ck_qsession_inquiry_link`. -/
def inquiryLink : Bool :=
  if s.inquiry.isNone then s.linkedAt.isNone
  else decide (s.status = .submitted) && s.linkedAt.any fun linked =>
    s.submittedAt.any fun submitted => decide (submitted ≤ linked)

instance : Table QuestionnaireSession where
  accepts s := decide (0 < s.stateVersion) && s.submission && s.inquiryLink

end QuestionnaireSession

/-- The events of a questionnaire session. -/
inductive SessionEvent
  | startCarePrecheck
  | saveCarePrecheck
  | submitCarePrecheck
  | startInquiry
  deriving DecidableEq, Repr

/-- A row of the transition history with a questionnaire session as its target. -/
structure SessionHistory where
  actor : Nat
  event : SessionEvent
  fromState : Option SessionStatus
  toState : SessionStatus
  stateVersion : Nat
  correlationId : String
  idempotencyKey : String
  changedAt : Instant
  deriving DecidableEq

instance : Table SessionHistory where
  accepts h := decide (0 < h.stateVersion) && (h.stateVersion == 1) == h.fromState.isNone

/-! ### The inquiry and its history -/

structure Inquiry where
  id : Nat
  inquiryCode : String
  subscription : Nat
  initiatedBy : Nat
  assignedUser : Option Nat
  assignedRole : AssignedRole
  channel : Option Channel
  rawText : String
  riskLevel : Option RiskLevel
  priority : Priority
  usageGuidanceStatus : Option UsageGuidanceStatus
  evidenceIds : List String
  evidenceMode : Option EvidenceMode
  requiresFallback : Bool
  status : InquiryState
  stateVersion : Nat
  cancelledAt : Option Instant
  cancellationReason : Option CancellationReason
  cancellationDetail : Option String
  deriving DecidableEq

namespace Inquiry
variable (q : Inquiry)

/-- `ck_inquiry_assignment_pair`. -/
def assignmentPair : Bool := decide (q.assignedRole = .none) == q.assignedUser.isNone

/-- `ck_inquiry_cancellation_fields`. -/
def cancellationFields : Bool :=
  if q.status = .cancelled then q.cancelledAt.isSome && q.cancellationReason.isSome
  else q.cancelledAt.isNone && q.cancellationReason.isNone && q.cancellationDetail.isNone

instance : Table Inquiry where
  accepts q :=
    q.assignmentPair && decide (0 < q.stateVersion) && q.rawText != "" && q.cancellationFields

end Inquiry

inductive ChangedBy
  | user (id : Nat)
  | system
  deriving DecidableEq, Repr

/-- A row of the transition history with an inquiry as its target. -/
structure InquiryHistory where
  actor : ChangedBy
  event : EventCode
  fromState : Option InquiryState
  toState : InquiryState
  stateVersion : Nat
  correlationId : String
  idempotencyKey : String
  changeReason : Option String
  changedAt : Instant
  deriving DecidableEq

/-- `ck_status_history_version_positive` and `ck_status_history_version_origin`. -/
instance : Table InquiryHistory where
  accepts h := decide (0 < h.stateVersion) && (h.stateVersion == 1) == h.fromState.isNone

/-- A row of the transition history with a visit as its target. -/
structure VisitHistory where
  visit : Nat
  actor : Nat
  event : EventCode
  fromState : Option VisitStatus
  toState : VisitStatus
  stateVersion : Nat
  correlationId : String
  idempotencyKey : String
  changedAt : Instant
  deriving DecidableEq

instance : Table VisitHistory where
  accepts h := decide (0 < h.stateVersion) && (h.stateVersion == 1) == h.fromState.isNone

/-! ### Consultations, visits and feedback -/

structure Consultation where
  id : Nat
  sequence : Nat
  consultant : Option Nat
  status : ConsultationStatus
  outcome : Outcome
  summary : String
  aiDraftSummary : Option String
  confirmedSummary : Option String
  summaryConfirmedAt : Option Instant
  consultationNote : Option String
  additionalCheck : Option String
  customerGuidance : Option String
  usageGuidanceStatus : Option UsageGuidanceStatus
  visitReviewReason : Option String
  visitReviewDetail : Option String
  visitNotNeededReason : Option String
  visitNotNeededDetail : Option String
  stateVersion : Nat
  idempotencyKey : String
  correlationId : String
  startedAt : Option Instant
  completedAt : Option Instant
  isSynthetic : Bool
  createdAt : Instant
  deriving DecidableEq

namespace Consultation
variable (c : Consultation)

/-- `ck_consult_lifecycle`. -/
def lifecycle : Bool :=
  match c.status with
  | .waiting => c.consultant.isNone && c.startedAt.isNone && c.completedAt.isNone
  | .assigned => c.consultant.isSome && c.startedAt.isNone && c.completedAt.isNone
  | .inProgress => c.consultant.isSome && c.startedAt.isSome && c.completedAt.isNone
  | .completed => c.consultant.isSome && c.startedAt.isSome && c.completedAt.isSome
  | .cancelled => c.completedAt.isNone

/-- `ck_consult_outcome_lifecycle`. -/
def outcomeLifecycle : Bool :=
  match c.status with
  | .completed => decide (c.outcome ≠ .pending)
  | .inProgress => true
  | .waiting | .assigned | .cancelled => decide (c.outcome = .pending)

/-- `ck_consult_start_order`. -/
def startOrder : Bool := c.startedAt.all fun started => decide (c.createdAt ≤ started)

/-- `ck_consult_complete_order`. -/
def completeOrder : Bool :=
  c.completedAt.all fun completed => c.startedAt.all fun started => decide (started ≤ completed)

instance : Table Consultation where
  accepts c :=
    decide (0 < c.sequence) && decide (0 < c.stateVersion) && c.idempotencyKey != "" &&
      c.lifecycle && c.outcomeLifecycle && c.startOrder && c.completeOrder

end Consultation

structure Visit where
  id : Nat
  technician : Option Nat
  status : VisitStatus
  requestedAt : Instant
  scheduledAt : Option Instant
  preferredDate : Option Day
  confirmedDate : Option Day
  visitReason : Option String
  usageGuidanceStatus : Option UsageGuidanceStatus
  handoffPayload : Dict
  startedAt : Option Instant
  completedAt : Option Instant
  confirmedCause : Option String
  actionTaken : Option String
  stateVersion : Nat
  idempotencyKey : String
  correlationId : String
  isSynthetic : Bool
  createdAt : Instant

namespace Visit
variable (v : Visit)

/-- `ck_visit_lifecycle`. -/
def lifecycle : Bool :=
  match v.status with
  | .assigning => v.technician.isNone && v.startedAt.isNone && v.completedAt.isNone
  | .scheduling => v.technician.isSome && v.startedAt.isNone && v.completedAt.isNone
  | .confirmed =>
      v.technician.isSome && v.scheduledAt.isSome && v.startedAt.isNone && v.completedAt.isNone
  | .inProgress => v.technician.isSome && v.startedAt.isSome && v.completedAt.isNone
  | .completed | .followUpRequired =>
      v.technician.isSome && v.startedAt.isSome && v.completedAt.isSome
  | .cancelled => v.completedAt.isNone

/-- `ck_visit_complete_order`. -/
def completeOrder : Bool :=
  v.completedAt.all fun completed => v.startedAt.all fun started => decide (started ≤ completed)

/-- `ck_visit_result_lifecycle`. -/
def resultLifecycle : Bool :=
  match v.status with
  | .completed | .followUpRequired => v.confirmedCause.isSome && v.actionTaken.isSome
  | .assigning | .scheduling | .confirmed | .inProgress | .cancelled =>
      v.confirmedCause.isNone && v.actionTaken.isNone

instance : Table Visit where
  accepts v :=
    decide (0 < v.stateVersion) && v.idempotencyKey != "" && v.lifecycle && v.completeOrder &&
      v.resultLifecycle

end Visit

structure FollowupConfirmation where
  id : Nat
  consultation : Option Nat
  visit : Option Nat
  channel : FollowupChannel
  resolutionStatus : ResolutionStatus
  stateVersion : Nat
  customerResponse : Option String
  unresolvedReason : Option String
  nextAction : NextAction
  requestedAt : Instant
  respondedAt : Option Instant
  confirmedAt : Option Instant
  createdAt : Instant
  deriving DecidableEq

namespace FollowupConfirmation
variable (f : FollowupConfirmation)

/-- `ck_followup_response_state`. -/
def responseState : Bool :=
  match f.resolutionStatus with
  | .pending => f.respondedAt.isNone && f.confirmedAt.isNone
  | .resolved | .unresolved | .reopened => f.respondedAt.isSome

/-- `ck_followup_unresolved_reason` and `ck_followup_resolved_confirmed`. -/
def reasonFields : Bool :=
  match f.resolutionStatus with
  | .unresolved | .reopened => f.unresolvedReason.isSome
  | .resolved => f.confirmedAt.isSome
  | .pending => true

/-- `ck_followup_response_time` and `ck_followup_confirmation_time`. -/
def times : Bool :=
  (f.respondedAt.all fun responded => decide (f.requestedAt ≤ responded)) &&
    f.confirmedAt.all fun confirmed =>
      f.respondedAt.any fun responded => decide (responded ≤ confirmed)

instance : Table FollowupConfirmation where
  accepts f :=
    decide (0 < f.stateVersion) && f.responseState && f.reasonFields && f.times &&
      (f.consultation.isSome || f.visit.isSome)

end FollowupConfirmation

/-! ### Questions and their answers -/

structure FollowUpAnswer where
  answeredBy : Nat
  answerText : Option String
  answerPayload : Option Dict
  acceptedStateVersion : Nat

/-- A question whose options are the strings of its metadata. -/
structure InquiryQA where
  id : Nat
  sequenceNo : Nat
  questionCode : Option String
  questionText : String
  answerType : String
  questionOptions : List String
  targetField : Option String
  customerAnswer : Option FollowUpAnswer

/-! ### The analysis and its review -/

/-- An AI run; of its input payload the state version and the model are read. -/
structure AIRun where
  id : Nat
  idempotencyKey : String
  inputDigest : String
  inputStateVersion : Nat
  inputModelCode : String
  correlationId : Uuid
  status : RunStatus
  schemaStatus : SchemaStatus
  validatedOutput : Option RunOutput
  errorCode : Option String
  retryCount : Nat
  startedAt : Option Instant
  completedAt : Option Instant
  createdAt : Instant
  deriving DecidableEq

namespace AIRun
variable (r : AIRun)

/-- The analysis result among the outputs. -/
def result : Option SymptomAnalysisResult := r.validatedOutput.bind (·.result)

/-- `ck_ai_run_lifecycle`. -/
def lifecycle : Bool :=
  match r.status with
  | .queued => r.startedAt.isNone && r.completedAt.isNone
  | .running | .retrying => r.startedAt.isSome && r.completedAt.isNone
  | .succeeded | .noEvidence | .failed | .timedOut =>
      r.startedAt.isSome && r.completedAt.isSome
  | .cancelled => r.completedAt.isSome

/-- `ck_ai_run_success`, `ck_ai_run_no_evidence` and `ck_ai_run_failure`. -/
def outcome : Bool :=
  match r.status with
  | .succeeded | .noEvidence =>
      decide (r.schemaStatus = .passed) && r.validatedOutput.isSome
  | .failed | .timedOut => r.errorCode.isSome
  | .queued | .running | .retrying | .cancelled => true

/-- `ck_ai_run_time_order`. -/
def timeOrder : Bool :=
  r.completedAt.all fun completed =>
    (decide (r.status = .cancelled) && r.startedAt.isNone && decide (r.createdAt ≤ completed)) ||
      r.startedAt.any fun started => decide (started ≤ completed)

instance : Table AIRun where
  accepts r := r.lifecycle && r.outcome && r.timeOrder

end AIRun

structure SymptomAssessment where
  assessmentVersion : Nat
  riskLevel : RiskLevel
  usageGuidanceStatus : UsageGuidanceStatus
  requiresConsultation : Bool
  reason : String
  ruleResult : SafetyAssessment
  run : Nat
  deriving DecidableEq

namespace SymptomAssessment

/-- The blank check of the reason, `ck_assessment_danger_safety`, `ck_assessment_caution_safety` and
`ck_assessment_pending_consultation`. -/
instance : Table SymptomAssessment where
  accepts s := decide (0 < s.assessmentVersion) && s.reason != "" &&
    (s.riskLevel != .danger || s.requiresConsultation &&
      (s.usageGuidanceStatus == .totalStop || s.usageGuidanceStatus == .partialStop &&
        s.ruleResult.matchedSafetyRuleIds == ["SAFETY-HOT-WATER-HEATER-001"])) &&
    (s.riskLevel != .caution || s.usageGuidanceStatus != .normal) &&
    (s.usageGuidanceStatus != .pendingConsultation || s.requiresConsultation)

end SymptomAssessment

structure GuidanceItem where
  id : Nat
  stepNo : Nat
  actionType : String
  instructionText : String
  cautionText : Option String
  requiresConfirmation : Bool
  deriving DecidableEq

structure EvidenceLink where
  id : Nat
  displayOrder : Nat
  chunk : String
  documentSha256 : String
  isVerified : Bool
  verifiedBy : Option Nat
  verifiedAt : Option Instant
  deriving DecidableEq

structure Guidance where
  id : Nat
  guidanceVersion : Nat
  reviewStatus : String
  title : String
  summaryText : String
  safetyNotice : Option String
  evidenceSufficiency : String
  requiresConsultation : Bool
  run : Option Nat
  reviewedBy : Option Nat
  reviewedAt : Option Instant
  items : List GuidanceItem
  evidenceLinks : List EvidenceLink
  deriving DecidableEq

/-- The non-blank texts, `ck_guidance_version_positive`, `ck_guidance_review_pair`
and the texts of the items. -/
instance : Table Guidance where
  accepts g := decide (0 < g.guidanceVersion) && hasText g.reviewStatus && hasText g.title &&
    hasText g.summaryText && hasText g.evidenceSufficiency &&
    g.reviewedBy.isNone == g.reviewedAt.isNone &&
    g.items.all fun item =>
      decide (0 < item.stepNo) && hasText item.actionType && hasText item.instructionText

structure HumanReview where
  id : Nat
  guidance : Nat
  publishedGuidance : Option Nat
  sourceAiRequestId : String
  sourceInquiryStateVersion : Nat
  status : ReviewStatus
  decision : Option ReviewDecision
  reviewStateVersion : Nat
  initialReasonCode : String
  decisionReasonCode : Option String
  reviewer : Option Nat
  decidedAt : Option Instant
  decisionIdempotencyKey : Option String
  decisionCorrelationId : Option Uuid
  modifiedGuidance : Dict
  originalRequiresConsultation : Bool
  effectiveRequiresConsultation : Bool
  origin : ConsultationOrigin
  originReason : OriginReason
  disposition : Option Disposition
  changeReason : Option ChangeReason
  evidenceSnapshot : List EvidenceLink
  createdAt : Instant
  updatedAt : Instant

namespace HumanReview
variable (r : HumanReview)

/-- The audit fields of a decision: absent before it, present after it. -/
def decisionAudit : Bool :=
  if r.status = .pending then
    r.decision.isNone && r.decisionReasonCode.isNone && r.reviewer.isNone &&
      r.decidedAt.isNone && r.decisionIdempotencyKey.isNone && r.decisionCorrelationId.isNone &&
      r.disposition.isNone && r.changeReason.isNone &&
      r.evidenceSnapshot.isEmpty &&
      r.effectiveRequiresConsultation == r.originalRequiresConsultation &&
      r.publishedGuidance.isNone && r.modifiedGuidance.isEmpty
  else
    r.decision.isSome && r.decisionReasonCode.isSome && r.reviewer.isSome &&
      r.decidedAt.isSome && r.decisionIdempotencyKey.isSome && r.decisionCorrelationId.isSome &&
      r.disposition.isSome

/-- `ck_hreview_state_fields` for the decided statuses. -/
def stateFields : Bool :=
  match r.status with
  | .pending | .resumeFailed => true
  | .approved =>
      r.decision == some .approve && r.publishedGuidance.isSome && r.modifiedGuidance.isEmpty
  | .modified =>
      r.decision == some .modify && r.publishedGuidance.isSome && !r.modifiedGuidance.isEmpty
  | .rejected =>
      r.decision == some .reject && r.publishedGuidance.isNone && r.modifiedGuidance.isEmpty

instance : Table HumanReview where
  accepts r := decide (0 < r.reviewStateVersion) && decide (0 < r.sourceInquiryStateVersion) &&
    r.decisionAudit && r.stateFields

end HumanReview

/-- A cause of a durable ledger, with the lock class it claims. -/
structure LedgerCause where
  causeCode : String
  lockClass : String
  deriving DecidableEq, Repr

structure ConsultationCauseLedger where
  run : Nat
  causes : List LedgerCause
  deriving DecidableEq, Repr

/-! ### Hand-offs and action results -/

structure ConsultationHandoff where
  id : Nat
  run : Nat
  consultation : Option Nat
  aiRequestId : String
  schemaVersion : String
  routingReason : Option String
  payloadStateVersion : Option Nat
  payloadSha256 : String
  aiDraftSummary : String
  createdAt : Instant
  deriving DecidableEq

structure HandoffReport where
  consultation : Nat
  reportVersion : Nat
  confirmedBy : Nat
  confirmedAt : Instant
  deriving DecidableEq

structure CustomerActionResult where
  id : Nat
  guidanceItem : Nat
  attemptNo : Nat
  resultCode : String
  resultText : Option String
  performedAt : Option Instant
  customerComment : Option String
  submittedBy : Nat
  createdAt : Instant
  deriving DecidableEq

instance : Table CustomerActionResult where
  accepts r := decide (0 < r.attemptNo) && hasText r.resultCode

end WaterCare.Store
