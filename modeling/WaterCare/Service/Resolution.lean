import WaterCare.Service.Customer

/-!
`resolution_service.py`: the feedback of the customer on a completed handling,
the return to the consultation queue, and the finalization by the last handler.
-/

namespace WaterCare.Service
open Workflow Store Py
open Engine (validIdempotencyKey Reason)

/-- `ActionConfig`. -/
structure ActionConfig where
  operationId : OperationId
  eventCode : EventCode
  message : String
  requiredEffect : String

namespace ActionConfig

def feedback : ActionConfig :=
  ⟨.submitResolutionFeedback, .submitResolutionFeedback, "해결 피드백이 저장되었습니다.",
    "STORE_RESOLVED_CUSTOMER_FEEDBACK"⟩

def unresolved : ActionConfig :=
  ⟨.reportUnresolved, .customerReportedUnresolved, "미해결 보고로 문의가 다시 열렸습니다.",
    "STORE_UNRESOLVED_CUSTOMER_FEEDBACK"⟩

def resume : ActionConfig :=
  ⟨.resumeConsultation, .resumeConsultation, "재개 문의가 상담 대기열로 복귀했습니다.",
    "RESTORE_TO_CONSULTATION_QUEUE"⟩

def finalize : ActionConfig :=
  ⟨.finalizeInquiry, .finalizeInquiry, "문의가 최종 완료되었습니다.", "SET_RESOLVED_AT"⟩

end ActionConfig

namespace ResolutionRepository

/-- `_channel`. -/
def channel (q : Inquiry) : Except Failure FollowupChannel :=
  match q.channel with
  | some .web => .ok .web
  | some .mobile => .ok .app
  | some .phone => .ok .phone
  | some .operator | none => .error (.raised "ValueError")

/-- A feedback linked to the completed handling it answers. -/
def createFeedback (a : Aggregate) (handling : CompletedHandling) (id stateVersion : Nat)
    (status : ResolutionStatus) (comment unresolvedReason : Option String) (next : NextAction)
    (confirmedAt : Option Instant) (now : Instant) :
    Except Failure (Aggregate × Stored FollowupConfirmation) := do
  let channel ← channel a.q
  let row ← save
    { id := id, consultation := handling.consultation, visit := handling.visit, channel := channel
      resolutionStatus := status, stateVersion := stateVersion, customerResponse := comment
      unresolvedReason := unresolvedReason, nextAction := next, requestedAt := handling.completedAt
      respondedAt := some now, confirmedAt := confirmedAt, createdAt := now } "ValidationError"
  pure ({ a with followups := a.followups ++ [row] }, row)

def createResolvedFeedback (a : Aggregate) (handling : CompletedHandling) (id stateVersion : Nat)
    (comment : Option String) (now : Instant) :
    Except Failure (Aggregate × Stored FollowupConfirmation) :=
  createFeedback a handling id stateVersion .resolved comment none .finalizeInquiry (some now) now

def createUnresolvedFeedback (a : Aggregate) (handling : CompletedHandling) (id stateVersion : Nat)
    (reasonCode comment : Option String) (now : Instant) :
    Except Failure (Aggregate × Stored FollowupConfirmation) :=
  createFeedback a handling id stateVersion .reopened comment (some (reasonCode.getD ""))
    .resumeConsultation none now

/-- `lock_assigned_consultant_inquiry`. -/
def isAssignedConsultant (actor : User) (q : Inquiry) : Bool :=
  decide (q.assignedUser = some actor.id) && decide (q.assignedRole = .consultant)

end ResolutionRepository

namespace ResolutionService
variable (settings : Settings) (d : Directory) (request : Request) (inquiry stateVersion : Nat)

def completionSourceRequired : Failure :=
  .business "COMPLETION_SOURCE_REQUIRED" "완료 처리 원본을 확인할 수 없습니다." [] 422

/-- The completed handling every action but `resume` needs. -/
def lockHandling (a : Aggregate) : Except Failure ActionContext :=
  match a.completedHandling with
  | none => .error completionSourceRequired
  | some handling => .ok { ActionContext.empty with handling := some handling }

/-- `_execute`. -/
def execute (config : ActionConfig) (body : List (String × Value)) (lock : Inquiry → Bool)
    (prepare : Aggregate → Except Failure ActionContext)
    (domainResults : Aggregate → ActionContext → List (GuardId × Bool))
    (mutate : Plan → Aggregate → ActionContext → Nat → Except Failure (Aggregate × Resource))
    (changeReason : ActionContext → Option String) : InquiryAction where
  operationId := config.operationId
  event := config.eventCode
  inquiry := inquiry
  requestHash := settings.inquiryHash inquiry
    (mapping (("state_version", natural stateVersion) :: body))
  requestedVersion := stateVersion
  workflowActor := request.actor
  lock := lock
  prepare := prepare
  conflictReasons := [.terminalState, .unlistedTransition, .visitStateMismatch]
  conflict a _ := stateConflict stateChanged a.q (currentActions d a request.actor)
  unresolved := .internalError requestFailed
  requiredEffects := [config.requiredEffect]
  domainResults := domainResults
  conflictGuards := [.stateVersion, .noFreshResolvedCustomerFeedback]
  guardFailure := guardFailure (passedOn fun _ => []) (passedOn fun _ => [])
  mutate := mutate
  apply := applyStateTransition
  settle := .ok
  records rule := rule.recordInquiryStateHistory
  changeReason := changeReason
  finish _ _ recorded _ := .ok recorded
  respond written _ _ :=
    transitionBody config.message written.q (currentActions d written request.actor) .none

def text (key : String) (value : Option String) : List (String × Value) :=
  value.elim [] fun v => [(key, .str v)]

/-- A mutation on the completed handling of the context. -/
def onHandling (context : ActionContext)
    (mutation : CompletedHandling → Except Failure (Aggregate × Resource)) :
    Except Failure (Aggregate × Resource) :=
  match context.handling with
  | none => .error (.raised "AssertionError")
  | some handling => mutation handling

/-- `fresh_resolved_feedback_exists` on the handling of the context. -/
def isFresh (a : Aggregate) (context : ActionContext) : Bool :=
  context.handling.any fun handling => a.freshResolvedFeedback handling.completedAt

def submitFeedback (comment : Option String) : InquiryAction :=
  execute settings d request inquiry stateVersion .feedback
    (("resolved", .bool true) :: text "comment" comment) (d.owns request.actor) lockHandling
    (fun a context =>
      [(.inquiryOwner, true), (.noFreshResolvedCustomerFeedback, !isFresh a context),
        (.resolutionFeedbackResolved, true)])
    (fun plan a context fresh => onHandling context fun handling =>
      (ResolutionRepository.createResolvedFeedback a handling fresh plan.version comment
        request.now).map fun written => (written.1, .followup written.2))
    fun _ => none

def reportUnresolved (reasonCode comment : Option String) : InquiryAction :=
  execute settings d request inquiry stateVersion .unresolved
    (("resolved", .bool false) :: text "reason_code" reasonCode ++ text "comment" comment)
    (d.owns request.actor) lockHandling
    (fun _ _ => [(.inquiryOwner, true), (.unresolvedFeedbackValid, true)])
    (fun plan a context fresh => onHandling context fun handling =>
      (ResolutionRepository.createUnresolvedFeedback a handling fresh plan.version reasonCode comment
        request.now).map fun written => (written.1, .followup written.2))
    fun _ => (reasonCode.filter (· != "")).or comment

def resumeConsultation : InquiryAction :=
  execute settings d request inquiry stateVersion .resume []
    (ResolutionRepository.isAssignedConsultant request.actor) (fun _ => .ok .empty)
    (fun _ _ => [])
    (fun plan a _ fresh =>
      (ConsultationRepository.request d a (request.stamp plan) (ConsultationRepository.lockLatest a)
        fresh request.now).map fun written => (written.1, .consultation written.2))
    fun _ => none

/-- The handler of the completion is the actor, in the role the actor has now. -/
def isLastHandler (context : ActionContext) : Bool :=
  context.handling.any fun handling => (handling.handler.bind d.user).any fun handler =>
    decide (handler.id = request.actor.id) && decide (handler.role = request.actor.role)

def finalizeReason (finalNote : Option String) (context : ActionContext) : Option String :=
  context.handling.map fun handling =>
    match finalNote.filter (· != "") with
    | some note => handling.sourceCode ++ " | " ++ note
    | none => handling.sourceCode

def finalize (finalNote : Option String) : InquiryAction :=
  execute settings d request inquiry stateVersion .finalize (text "final_note" finalNote)
    (fun _ => true) lockHandling
    (fun a context =>
      [(.actorLastHandler, isLastHandler d request context),
        (.resolvedCustomerFeedbackExists, isFresh a context), (.finalizationPayloadValid, true)])
    (fun _ a _ _ => .ok (a, .root)) (finalizeReason finalNote)

end ResolutionService
end WaterCare.Service
