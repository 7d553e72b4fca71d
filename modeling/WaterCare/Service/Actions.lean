import WaterCare.Store.World
import WaterCare.Workflow.Guards

/-!
`workflow/engine/allowed_action_resolver.py`: the actions a snapshot lists. An
action has the code of its event; the catalogue holds the entries whose
operation the runtime implements.
-/

namespace WaterCare.Service
open Workflow Store Py

/-- An entry of `action_catalog` with its response fields. -/
structure ActionEntry where
  code : EventCode
  label : String
  operationId : OperationId
  style : String
  requiresConfirmation : Bool
  confirmationMessage : Option String
  deriving DecidableEq

/-- The executable actions of the crosswalk with their catalogue entries. -/
def actionCatalog : List ActionEntry :=
  [ ⟨.submitSymptom, "증상 제출", .submitSymptom, "PRIMARY", false, none⟩,
    ⟨.cancelInquiry, "문의 취소", .cancelInquiry, "DESTRUCTIVE", true,
      some "문의를 취소하시겠습니까?"⟩,
    ⟨.submitAnswers, "추가 답변 제출", .submitFollowUpAnswers, "PRIMARY", false, none⟩,
    ⟨.requestConsultation, "상담 요청", .requestConsultation, "SECONDARY", false, none⟩,
    ⟨.claimConsultation, "상담 배정받기", .claimConsultation, "PRIMARY", false, none⟩,
    ⟨.startConsultation, "상담 시작", .startConsultation, "PRIMARY", false, none⟩,
    ⟨.updateConsultationSummary, "상담 요약 수정", .updateConsultationSummary, "SECONDARY", false,
      none⟩,
    ⟨.confirmConsultationSummary, "상담 요약 확정", .confirmConsultationSummary, "PRIMARY", true,
      some "수정한 상담 요약을 확정하시겠습니까?"⟩,
    ⟨.consultationCompleted, "상담 처리 완료", .completeConsultation, "PRIMARY", true,
      some "상담 처리를 완료하고 고객 확인 단계로 전환하시겠습니까?"⟩,
    ⟨.visitReviewRequired, "방문 필요 여부 검토", .requestVisitReview, "SECONDARY", false, none⟩,
    ⟨.visitNeeded, "방문 필요 확정", .createVisitRequest, "PRIMARY", true,
      some "방문 요청을 생성하시겠습니까?"⟩,
    ⟨.updateVisitSchedule, "방문 일정 조율", .updateVisitSchedule, "SECONDARY", false, none⟩,
    ⟨.confirmVisit, "방문 일정 확정", .confirmVisit, "PRIMARY", true,
      some "담당 기사와 방문 일정을 확정하시겠습니까?"⟩,
    ⟨.submitResolutionFeedback, "해결 완료 확인", .submitResolutionFeedback, "PRIMARY", false, none⟩,
    ⟨.customerReportedUnresolved, "아직 해결되지 않았어요", .reportUnresolved, "SECONDARY", false,
      none⟩,
    ⟨.resumeConsultation, "상담 대기열로 복귀", .resumeConsultation, "PRIMARY", false, none⟩,
    ⟨.finalizeInquiry, "문의 최종 완료", .finalizeInquiry, "PRIMARY", true,
      some "고객 해결 확인을 검토하고 문의를 최종 완료하시겠습니까?"⟩,
    ⟨.visitNotNeeded, "방문 불필요 확정", .markVisitNotNeeded, "SECONDARY", true,
      some "방문 없이 상담 처리 결과 확인 단계로 전환하시겠습니까?"⟩ ]

/-- An assignment of `state_role_actions`. -/
structure Assignment where
  action : EventCode
  transitionRuleIds : List String
  deriving DecidableEq

def cancelAssignment (rule : String) : Assignment := ⟨.cancelInquiry, [rule]⟩

def stateRoleActions : InquiryState → ActorRole → List Assignment
  | .draft, .customer => [⟨.submitSymptom, ["TR-INQ-002"]⟩, cancelAssignment "TR-INQ-004"]
  | .draft, .consultant | .draft, .operator => [cancelAssignment "TR-INQ-004"]
  | .questionnaireInProgress, .customer =>
      [⟨.submitAnswers, ["TR-INQ-003"]⟩, cancelAssignment "TR-INQ-005"]
  | .questionnaireInProgress, .consultant | .questionnaireInProgress, .operator =>
      [cancelAssignment "TR-INQ-005"]
  | .aiGuidance, .customer =>
      [⟨.customerReportedSelfResolved, ["TR-INQ-011"]⟩, ⟨.requestConsultation, ["TR-INQ-012"]⟩]
  | .consultationRequired, .customer =>
      [⟨.requestConsultation, ["TR-INQ-013"]⟩, cancelAssignment "TR-INQ-038"]
  | .consultationRequired, .consultant =>
      [⟨.claimConsultation, ["TR-INQ-037"]⟩, ⟨.startConsultation, ["TR-INQ-014"]⟩,
        cancelAssignment "TR-INQ-038"]
  | .consultationRequired, .operator => [cancelAssignment "TR-INQ-038"]
  | .consultationInProgress, .customer | .consultationInProgress, .operator =>
      [cancelAssignment "TR-INQ-039"]
  | .consultationInProgress, .consultant =>
      [⟨.updateConsultationSummary, ["TR-INQ-015"]⟩, ⟨.confirmConsultationSummary, ["TR-INQ-016"]⟩,
        ⟨.consultationCompleted, ["TR-INQ-017"]⟩, ⟨.visitReviewRequired, ["TR-INQ-018"]⟩,
        cancelAssignment "TR-INQ-039"]
  | .visitReviewPending, .consultant =>
      [⟨.visitNeeded, ["TR-INQ-019"]⟩, ⟨.visitNotNeeded, ["TR-INQ-034"]⟩]
  | .visitScheduling, .consultant =>
      [⟨.updateVisitSchedule, ["TR-INQ-020", "TR-INQ-021"]⟩, ⟨.confirmVisit, ["TR-INQ-022"]⟩]
  | .visitScheduled, .technician =>
      [⟨.updatePrevisitReport, ["TR-INQ-023"]⟩, ⟨.confirmPrevisitReport, ["TR-INQ-024"]⟩,
        ⟨.startVisit, ["TR-INQ-025"]⟩, ⟨.visitCompleted, ["TR-INQ-026"]⟩,
        ⟨.revisitNeeded, ["TR-INQ-027"]⟩]
  | .completionPending, .customer =>
      [⟨.submitResolutionFeedback, ["TR-INQ-029"]⟩,
        ⟨.customerReportedUnresolved, ["TR-INQ-030"]⟩, ⟨.requestConsultation, ["TR-INQ-031"]⟩]
  | .completionPending, .consultant | .completionPending, .technician =>
      [⟨.finalizeInquiry, ["TR-INQ-033"]⟩]
  | .revisitRequired, .consultant => [⟨.updateVisitSchedule, ["TR-INQ-028"]⟩]
  | .reopened, .consultant => [⟨.resumeConsultation, ["TR-INQ-032"]⟩]
  | _, _ => []

/-- `actor.has_perm("inquiries.cancel_inquiry")`. -/
def hasCancelPermission (actor : User) : Bool :=
  actor.isActive && (actor.isSuperuser || actor.mayCancelInquiry)

/-- `AllowedActionContext`. -/
structure AllowedActionContext where
  inquiryState : InquiryState
  stateVersion : Nat
  actorRole : ActorRole
  actorId : Nat
  ownerId : Option Nat
  assignedUserId : Option Nat
  assignedRole : AssignedRole
  inquiryCancelPermission : Bool
  productPresent : Bool
  symptomPayloadValid : Bool
  openFollowupQuestions : Bool
  consultationExists : Bool
  consultationStatus : Option ConsultationStatus
  consultationConsultantId : Option Nat
  consultationSummary : String
  consultationConfirmedSummary : Option String
  consultationSummaryConfirmed : Bool
  consultationOutcome : Option Outcome
  consultationCompleted : Bool
  visitExists : Bool
  visitStatus : Option VisitStatus
  visitIsLatest : Bool
  visitConfirmedDate : Bool
  technicianAssigned : Bool
  technicianActive : Bool
  technicianSynthetic : Bool
  technicianRole : Option UserRole
  completionSource : Option String
  actorIsLastHandler : Bool
  freshResolvedFeedbackExists : Bool

/-- The symptom text and subscription `SUBMIT_SYMPTOM` needs. -/
def symptomPayloadIsValid (d : Directory) (q : Inquiry) : Bool :=
  let text := strip q.rawText
  decide (2 ≤ text.length) && decide (text.length ≤ 2000) &&
    (d.subscription q.subscription).any fun s => decide (s.status = .active)

/-- A text that is neither missing nor empty. -/
def isFilled (text : Option String) : Bool := text.any (· != "")

namespace AllowedActionContext

/-- The completion facts a snapshot in `COMPLETION_PENDING` reads. -/
def completionFacts (a : Aggregate) : Option CompletedHandling :=
  if a.q.status = .completionPending then a.completedHandling else none

/-- `from_models` with the consultation, the visit and the open questions it is given. -/
def fromModels (d : Directory) (a : Aggregate) (actor : User) (consultation : Option Consultation)
    (visit : Option Visit) (openFollowupQuestions : Bool) : AllowedActionContext :=
  let technician := visit.bind fun v => v.technician.bind d.user
  let handling := completionFacts a
  { inquiryState := a.q.status
    stateVersion := a.q.stateVersion
    actorRole := actor.role.actorRole
    actorId := actor.id
    ownerId := (d.customerOf a.q).bind (·.user)
    assignedUserId := a.q.assignedUser
    assignedRole := a.q.assignedRole
    inquiryCancelPermission := decide (actor.role = .operator) && hasCancelPermission actor
    productPresent := (d.subscription a.q.subscription).isSome
    symptomPayloadValid := symptomPayloadIsValid d a.q
    openFollowupQuestions := openFollowupQuestions
    consultationExists := consultation.isSome
    consultationStatus := consultation.map (·.status)
    consultationConsultantId := consultation.bind (·.consultant)
    consultationSummary := consultation.elim "" (·.summary)
    consultationConfirmedSummary := consultation.bind (·.confirmedSummary)
    consultationSummaryConfirmed := consultation.any (·.summaryConfirmedAt.isSome)
    consultationOutcome := consultation.map (·.outcome)
    consultationCompleted := consultation.any (·.completedAt.isSome)
    visitExists := visit.isSome
    visitStatus := visit.map (·.status)
    visitIsLatest := visit.isSome
    visitConfirmedDate := visit.any (·.confirmedDate.isSome)
    technicianAssigned := technician.isSome
    technicianActive := technician.any (·.isActive)
    technicianSynthetic := technician.any (·.isSynthetic)
    technicianRole := technician.map (·.role)
    completionSource := handling.map (·.sourceCode)
    actorIsLastHandler := (handling.bind (·.handler)) == some actor.id
    freshResolvedFeedbackExists :=
      handling.any fun h => a.freshResolvedFeedback h.completedAt }

/-- The default of `open_followup_questions`. -/
def openQuestions (a : Aggregate) (actor : User) : Bool :=
  decide (actor.role = .customer) && decide (a.q.status = .questionnaireInProgress) &&
    a.questions.any (·.customerAnswer.isNone)

/-- `from_models` on the stored rows alone. -/
def ofAggregate (d : Directory) (a : Aggregate) (actor : User) : AllowedActionContext :=
  fromModels d a actor (a.latestConsultation.map (·.1)) (a.latestVisit.map (·.1))
    (openQuestions a actor)

variable (c : AllowedActionContext)

/-- `_guard_available`. -/
def guardAvailable : GuardId → Bool
  | .actorCustomer => decide (c.actorRole = .customer)
  | .actorConsultant => decide (c.actorRole = .consultant)
  | .actorTechnician => decide (c.actorRole = .technician)
  | .actorSystem => decide (c.actorRole = .system)
  | .inquiryOwner => decide (some c.actorId = c.ownerId)
  | .assignedConsultant =>
      decide (c.actorRole = .consultant) && decide (some c.actorId = c.assignedUserId)
  | .unassignedConsultationClaimable =>
      decide (c.actorRole = .consultant) && c.assignedUserId.isNone &&
        decide (c.assignedRole = .none) && c.consultationExists &&
        decide (c.consultationStatus = some .waiting) && c.consultationConsultantId.isNone
  | .cancelActorAuthorized =>
      (decide (c.actorRole = .customer) && decide (some c.actorId = c.ownerId)) ||
        (decide (c.actorRole = .consultant) && decide (some c.actorId = c.assignedUserId)) ||
        (decide (c.actorRole = .operator) && c.inquiryCancelPermission)
  | .stateVersion | .idempotencyKey | .cancellationReason | .resolutionFeedbackResolved
  | .unresolvedFeedbackValid | .finalizationPayloadValid => true
  | .actorLastHandler => c.actorIsLastHandler
  | .resolvedCustomerFeedbackExists => c.freshResolvedFeedbackExists
  | .noFreshResolvedCustomerFeedback => !c.freshResolvedFeedbackExists
  | .symptomPayloadValid => c.symptomPayloadValid
  | .followupAnswersValid => c.openFollowupQuestions
  | .consultationSummaryPayloadValid => c.consultationExists
  | .consultationSummaryConfirmable =>
      c.consultationExists && hasText c.consultationSummary && !c.consultationSummaryConfirmed
  | .consultationResultComplete =>
      c.consultationExists && c.consultationOutcome.any (· != .pending) &&
        isFilled c.consultationConfirmedSummary && c.consultationSummaryConfirmed &&
        !c.consultationCompleted
  | .visitReviewPayloadValid =>
      c.consultationExists && decide (c.consultationOutcome = some .visitRequired) &&
        isFilled c.consultationConfirmedSummary && !c.visitExists
  | .visitHandoffComplete =>
      c.consultationExists && decide (c.consultationOutcome = some .visitRequired) &&
        isFilled c.consultationConfirmedSummary && c.productPresent && !c.visitExists
  | .visitNotNeededResultComplete =>
      c.consultationExists && decide (c.consultationOutcome = some .visitRequired) &&
        isFilled c.consultationConfirmedSummary && c.consultationSummaryConfirmed &&
        !c.visitExists
  | .visitSchedulePayloadValid => c.visitExists && c.visitIsLatest
  | .confirmedVisitDate => c.visitIsLatest && c.visitConfirmedDate
  | .assignedTechnicianPresent =>
      c.visitIsLatest && c.technicianAssigned && c.technicianActive && c.technicianSynthetic &&
        decide (c.technicianRole = some .technician)
  | _ => false

/-- The snapshot the resolver asks the state machine about. -/
def snapshot : Snapshot := ⟨some (c.inquiryState, c.stateVersion), c.visitStatus⟩

/-- One pass of the loop of `AllowedActionResolver.resolve`. -/
def available (assignment : Assignment) : Option ActionEntry :=
  (actionCatalog.find? fun entry => decide (entry.code = assignment.action)).bind fun entry =>
    match shipped.resolve c.snapshot assignment.action with
    | .error _ => none
    | .ok plan =>
        if assignment.transitionRuleIds.contains plan.rule.id &&
            plan.rule.guardRefs.all c.guardAvailable then some entry
        else none

/-- `AllowedActionResolver.resolve`. -/
def resolve : List ActionEntry :=
  (stateRoleActions c.inquiryState c.actorRole).filterMap c.available

end AllowedActionContext

def ActionEntry.document (entry : ActionEntry) : Value :=
  mapping
    [("code", .str entry.code.code), ("label", .str entry.label),
      ("operation_id", .str entry.operationId.code), ("style", .str entry.style),
      ("requires_confirmation", .bool entry.requiresConfirmation),
      ("confirmation_message", .ofOption entry.confirmationMessage)]

end WaterCare.Service
