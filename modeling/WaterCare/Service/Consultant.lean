import WaterCare.Service.Repository

/-!
`assigned_consultant_action_service.py` and the operations built on it: the
consultation from its start to its completion, and the visit from its review to
its confirmation.
-/

namespace WaterCare.Service
open Workflow Store Py
open Engine (validIdempotencyKey Reason)

/-- `isoformat` of a point in time. -/
def isoformat (t : Instant) : Value := natural t

def actionDocuments (actions : List ActionEntry) : Value := .list (actions.map (·.document))

/-- The body of a workflow transition. -/
def transitionBody (message : String) (q : Inquiry) (actions : List ActionEntry)
    (resource : Value) : Dict :=
  dictOf [("message", .str message), ("inquiry_id", publicId q.id), ("status", .str q.status.code),
    ("state_version", natural q.stateVersion), ("allowed_actions", actionDocuments actions),
    ("idempotent_replay", .bool false), ("resource", resource)]

/-! ### The shared boundary -/

/-- What one operation of an assigned consultant adds to the boundary. -/
structure AssignedAction where
  operationId : OperationId
  event : EventCode
  message : String
  path : List (String × Value)
  body : Value
  stateVersion : Nat
  context : Aggregate → ActionContext
  /-- The visit of the allowed actions: of the context, or the latest stored one. -/
  visitOf : Aggregate → ActionContext → Option (Stored Visit)
  domainResults : Aggregate → ActionContext → List (GuardId × Bool)
  mutate : Plan → Aggregate → ActionContext → Nat → Except Failure (Aggregate × Resource)
  buildResource : Resource → Value

/-- `_lock_assigned_inquiry`. -/
def assignedTo (d : Directory) (actor : User) (q : Inquiry) : Bool :=
  decide (q.assignedUser = some actor.id) && decide (q.assignedRole = .consultant) &&
    d.isSynthetic q

namespace AssignedAction
variable (settings : Settings) (d : Directory) (request : Request) (workflowActor : User)
  (inquiry : Nat) (operation : AssignedAction)

/-- `_resolve_allowed_actions`. -/
def allowedActions (a : Aggregate) (context : ActionContext) (resource : Resource) :
    List ActionEntry :=
  let consultation :=
    match resource with
    | .consultation c => some c
    | _ => context.consultation
  let visit :=
    match resource with
    | .visit v => some v
    | _ => operation.visitOf a context
  (AllowedActionContext.fromModels d a workflowActor (consultation.map (·.1)) (visit.map (·.1))
    (AllowedActionContext.openQuestions a workflowActor)).resolve

/-- `record_visit_action`, for the transitions that change the visit. -/
def recordVisitAction (plan : Plan) (a recorded : Aggregate) (resource : Resource) :
    Except Failure Aggregate :=
  if plan.rule.recordVisitStateHistory then
    match resource, plan.visitStatus with
    | .visit v, some status =>
        recorded.recordVisitHistory
          { visit := v.1.id, actor := request.actor.id, event := plan.rule.event
            fromState := a.latestVisitStatus, toState := status, stateVersion := v.1.stateVersion
            correlationId := request.correlationId.1, idempotencyKey := request.idempotencyKey.1
            changedAt := request.now }
    | .visit _, none => .error (.raised "IntegrityError")
    | .consultation _, _ => .error (.raised "ValueError")
    | .root, _ | .followup _, _ => .error (.internalError requestFailed)
  else .ok recorded

/-- `execute`. -/
def toInquiryAction : InquiryAction where
  operationId := operation.operationId
  event := operation.event
  inquiry := inquiry
  requestHash := settings.canonicalRequestHash
    (normalizedRequest operation.path operation.body inquiry)
  requestedVersion := operation.stateVersion
  workflowActor := workflowActor
  lock := assignedTo d workflowActor
  prepare a := .ok (operation.context a)
  conflictReasons := [.terminalState, .unlistedTransition, .visitStateMismatch]
  conflict a context :=
    stateConflict stateChanged a.q (allowedActions d workflowActor operation a context .root)
  unresolved := .internalError requestFailed
  requiredEffects := []
  domainResults a context := (.assignedConsultant, true) :: operation.domainResults a context
  conflictGuards := [.stateVersion]
  guardFailure := guardFailure (passedOn fun _ => []) fun _ => .internalError requestFailed
  mutate := operation.mutate
  apply := applyStateTransition
  settle := .ok
  records _ := true
  changeReason _ := none
  finish := recordVisitAction request
  respond written context resource :=
    transitionBody operation.message written.q
      (allowedActions d workflowActor operation written context resource)
      (operation.buildResource resource)

end AssignedAction

/-! ### The consultation -/

namespace ConsultationService

/-- `build_resource`. -/
def buildResource (c : Consultation) : Value :=
  mapping
    [("consultation_id", publicId c.id), ("result_code", .str c.outcome.code),
      ("summary", mapping
        [("ai_draft_summary", .ofOption c.aiDraftSummary),
          ("edited_summary", if c.summary = "" then .none else .str c.summary),
          ("confirmed_summary", .ofOption c.confirmedSummary),
          ("confirmed_at", optional isoformat c.summaryConfirmedAt)]),
      ("consultation_note", .ofOption c.consultationNote),
      ("additional_check", .ofOption c.additionalCheck),
      ("customer_guidance", .ofOption c.customerGuidance),
      ("usage_guidance_status", optional (fun s => .str s.code) c.usageGuidanceStatus)]

def resourceValue : Resource → Value
  | .consultation c => buildResource c.1
  | .root | .visit _ | .followup _ => .none

/-- The mutation of a consultation the context holds. -/
def onConsultation (context : ActionContext)
    (mutation : Stored Consultation → Except Failure (Aggregate × Stored Consultation)) :
    Except Failure (Aggregate × Resource) :=
  match context.consultation with
  | none => .error (.raised "AttributeError")
  | some c => (mutation c).map fun written => (written.1, .consultation written.2)

/-- `_execute`: the context holds the latest consultation. -/
def execute (inquiry : Nat) (operationId : OperationId) (event : EventCode) (message : String)
    (body : Value) (stateVersion : Nat) (domainResults : ActionContext → List (GuardId × Bool))
    (mutate : Plan → Aggregate → ActionContext → Nat → Except Failure (Aggregate × Resource)) :
    AssignedAction where
  operationId := operationId
  event := event
  message := message
  path := inquiryPath inquiry
  body := body
  stateVersion := stateVersion
  context a := { ActionContext.empty with consultation := ConsultationRepository.lockLatest a }
  visitOf a _ := a.latestVisit
  domainResults _ := domainResults
  mutate := mutate
  buildResource := resourceValue

variable (request : Request) (inquiry stateVersion : Nat)

def start (consultant : User) : AssignedAction :=
  execute inquiry .startConsultation .startConsultation "상담을 시작했습니다."
    (stateVersionBody stateVersion) stateVersion (fun _ => [])
    fun plan a context fresh =>
      (ConsultationRepository.start a consultant (request.stamp plan) context.consultation fresh
        request.now).map fun written => (written.1, .consultation written.2)

/-- The body of `updateConsultationSummary`. -/
def summaryBody (values : SummaryValues) : Value :=
  mapping <| [("state_version", natural stateVersion)] ++
    entry "summary" (values.summary.map .str) ++
    entry "consultation_note" (values.consultationNote.map .ofOption) ++
    entry "additional_check" (values.additionalCheck.map .ofOption) ++
    entry "customer_guidance" (values.customerGuidance.map .ofOption) ++
    entry "result_code" (values.resultCode.map fun o => .str o.code) ++
    entry "usage_guidance_status"
      (values.usageGuidanceStatus.map (optional fun s => .str s.code))
where
  entry (key : String) (value : Option Value) : List (String × Value) :=
    value.elim [] fun v => [(key, v)]

def saveSummary (values : SummaryValues) : AssignedAction :=
  execute inquiry .updateConsultationSummary .updateConsultationSummary "상담 내용을 저장했습니다."
    (summaryBody stateVersion values) stateVersion
    (fun context => [(.consultationSummaryPayloadValid,
      context.consultation.isSome && !values.isEmpty)])
    fun plan a context _ => onConsultation context fun c =>
      ConsultationRepository.saveSummary a c values (request.stamp plan)

def confirmSummary : AssignedAction :=
  execute inquiry .confirmConsultationSummary .confirmConsultationSummary "상담 요약을 확정했습니다."
    (stateVersionBody stateVersion) stateVersion
    (fun context => [(.consultationSummaryConfirmable,
      context.consultation.any fun c => hasText c.1.summary && c.1.summaryConfirmedAt.isNone)])
    fun plan a context _ => onConsultation context fun c =>
      ConsultationRepository.confirmSummary a c (request.stamp plan) request.now

def complete : AssignedAction :=
  execute inquiry .completeConsultation .consultationCompleted "상담 처리를 완료했습니다."
    (stateVersionBody stateVersion) stateVersion
    (fun context => [(.consultationResultComplete, context.consultation.any fun c =>
      c.1.outcome != .pending && isFilled c.1.confirmedSummary &&
        c.1.summaryConfirmedAt.isSome && c.1.completedAt.isNone)])
    fun plan a context _ => onConsultation context fun c =>
      ConsultationRepository.complete a c (request.stamp plan) request.now

end ConsultationService

/-! ### The visit -/

/-- A reason code with its detail. -/
structure VisitReason where
  reasonCode : String
  reasonDetail : Option (Option String)

namespace VisitReason

def body (stateVersion : Nat) (reason : VisitReason) : Value :=
  mapping <| [("state_version", natural stateVersion), ("reason_code", .str reason.reasonCode)] ++
    reason.reasonDetail.elim [] fun detail => [("reason_detail", .ofOption detail)]

/-- `validated_data.get("reason_detail")`. -/
def detail (reason : VisitReason) : Option String := reason.reasonDetail.join

end VisitReason

structure ScheduleValues where
  technician : Nat
  preferredDate : Option Day
  confirmedDate : Option Day

namespace VisitService

/-- `build_resource`. -/
def buildResource (d : Directory) (inquiry : Nat) (v : Visit) : Value :=
  mapping
    [("visit_id", publicId v.id), ("inquiry_id", publicId inquiry),
      ("schedule", mapping
        [("preferred_date", optional natural v.preferredDate),
          ("confirmed_date", optional natural v.confirmedDate),
          ("schedule_status", .str v.status.code),
          ("synthetic_technician_id", optional publicId v.technician)]),
      ("technician", optional technician (v.technician.bind d.user))]
where
  technician (user : User) : Value :=
    mapping
      [("is_synthetic", .bool true), ("technician_id", publicId user.id),
        ("display_name", .str (String.ofList (user.fullName.toList.take 80))),
        ("phone", .str (String.ofList (user.phone.toList.take 32)))]

def resourceValue (d : Directory) (inquiry : Nat) : Resource → Value
  | .consultation c => ConsultationService.buildResource c.1
  | .visit v => buildResource d inquiry v.1
  | .root | .followup _ => .none

/-- `_execute_inquiry_action`: the context holds the latest consultation and visit. -/
def executeInquiryAction (d : Directory) (inquiry : Nat) (operationId : OperationId)
    (event : EventCode) (message : String) (body : Value) (stateVersion : Nat)
    (domainResults : Aggregate → ActionContext → List (GuardId × Bool))
    (mutate : Plan → Aggregate → ActionContext → Nat → Except Failure (Aggregate × Resource)) :
    AssignedAction where
  operationId := operationId
  event := event
  message := message
  path := inquiryPath inquiry
  body := body
  stateVersion := stateVersion
  context a := { ActionContext.empty with
    consultation := ConsultationRepository.lockLatest a
    visit := VisitRepository.lockLatest a }
  visitOf _ context := context.visit
  domainResults := domainResults
  mutate := mutate
  buildResource := resourceValue d inquiry

variable (settings : Settings) (d : Directory) (request : Request) (inquiry stateVersion : Nat)

def requestReview (reason : VisitReason) : AssignedAction :=
  executeInquiryAction d inquiry .requestVisitReview .visitReviewRequired
    "방문 필요 여부 검토를 시작했습니다." (reason.body stateVersion) stateVersion
    (fun _ context => [(.visitReviewPayloadValid,
      (context.consultation.any fun c =>
        decide (c.1.outcome = .visitRequired) && isFilled c.1.confirmedSummary) &&
        context.visit.isNone)])
    fun plan a context _ => ConsultationService.onConsultation context fun c =>
      ConsultationRepository.recordVisitReview a c reason.reasonCode reason.detail
        (request.stamp plan)

/-- The body of `createVisitRequest`; a missing preferred date is not part of it. -/
def visitBody (values : VisitValues) (preferredDateSent : Bool) : Value :=
  mapping <| [("state_version", natural stateVersion), ("visit_reason", .str values.visitReason),
      ("usage_guidance_status", .str values.usageGuidanceStatus.code),
      ("handoff", .dict values.handoff)] ++
    if preferredDateSent then [("preferred_date", optional natural values.preferredDate)] else []

def createRequest (values : VisitValues) (preferredDateSent : Bool) : AssignedAction :=
  executeInquiryAction d inquiry .createVisitRequest .visitNeeded "방문 요청을 생성했습니다."
    (visitBody stateVersion values preferredDateSent) stateVersion
    (fun a context => [(.visitHandoffComplete,
      (context.consultation.any fun c =>
        decide (c.1.outcome = .visitRequired) && isFilled c.1.confirmedSummary) &&
        (d.subscription a.q.subscription).isSome && context.visit.isNone &&
        !values.handoff.isEmpty)])
    fun plan a context fresh =>
      match context.consultation with
      | none => .error (.raised "AttributeError")
      | some c =>
          (VisitRepository.create a c request.actor values (request.stamp plan) fresh
            request.now).map fun written => (written.1, .visit written.2)

def markNotNeeded (reason : VisitReason) : AssignedAction :=
  executeInquiryAction d inquiry .markVisitNotNeeded .visitNotNeeded
    "방문 불필요 처리를 완료했습니다." (reason.body stateVersion) stateVersion
    (fun _ context => [(.visitNotNeededResultComplete,
      (context.consultation.any fun c =>
        decide (c.1.outcome = .visitRequired) && isFilled c.1.confirmedSummary &&
          c.1.summaryConfirmedAt.isSome) && context.visit.isNone)])
    fun plan a context _ => ConsultationService.onConsultation context fun c =>
      ConsultationRepository.markVisitNotNeeded a c reason.reasonCode reason.detail
        (request.stamp plan) request.now

/-- The context of the operations on a visit given by its identifier. -/
def visitContext (visit : Nat) (technician : Option User) (a : Aggregate) : ActionContext :=
  { ActionContext.empty with
    consultation := ConsultationRepository.lockLatest a
    visit := VisitRepository.lockByPublicId a visit
    latestVisit := VisitRepository.lockLatest a
    technician := technician }

/-- The visit of the request is the latest one. -/
def isCurrentVisit (context : ActionContext) : Bool :=
  context.visit.any fun v => context.latestVisit.any fun latest => decide (v.1.id = latest.1.id)

def scheduleBody (values : ScheduleValues) : Value :=
  mapping
    [("state_version", natural stateVersion),
      ("synthetic_technician_id", publicId values.technician),
      ("preferred_date", optional natural values.preferredDate),
      ("confirmed_date", optional natural values.confirmedDate)]

/-- The mutation of a visit the context holds, with the status of the plan. -/
def onVisit (plan : Plan) (context : ActionContext)
    (mutation : Stored Visit → VisitStatus → Except Failure (Aggregate × Stored Visit)) :
    Except Failure (Aggregate × Resource) :=
  match context.visit, plan.visitStatus with
  | some v, some status => (mutation v status).map fun written => (written.1, .visit written.2)
  | _, _ => .error (.raised "AttributeError")

def updateSchedule (visit : Nat) (values : ScheduleValues) : AssignedAction where
  operationId := .updateVisitSchedule
  event := .updateVisitSchedule
  message := "방문 일정을 저장했습니다."
  path := [("visit_id", publicId visit)]
  body := scheduleBody stateVersion values
  stateVersion := stateVersion
  context := visitContext visit (VisitRepository.syntheticTechnician d values.technician)
  visitOf _ context := context.latestVisit
  domainResults _ context := [(.visitSchedulePayloadValid,
    isCurrentVisit context && context.technician.isSome)]
  mutate plan a context _ := onVisit plan context fun v status =>
    match context.technician with
    | none => .error (.raised "AttributeError")
    | some technician =>
        VisitRepository.updateSchedule a v technician values.preferredDate values.confirmedDate
          status (request.stamp plan)
  buildResource := resourceValue d inquiry

def confirm (visit : Nat) : AssignedAction where
  operationId := .confirmVisit
  event := .confirmVisit
  message := "방문일을 확정했습니다."
  path := [("visit_id", publicId visit)]
  body := stateVersionBody stateVersion
  stateVersion := stateVersion
  context := visitContext visit none
  visitOf _ context := context.latestVisit
  domainResults _ context :=
    [(.confirmedVisitDate,
        isCurrentVisit context && context.visit.any fun v => v.1.confirmedDate.isSome),
      (.assignedTechnicianPresent, isCurrentVisit context && context.visit.any fun v =>
        (v.1.technician.bind d.user).any fun t =>
          decide (t.role = .technician) && t.isActive && t.isSynthetic)]
  mutate plan a context _ := onVisit plan context fun v status =>
    VisitRepository.confirm settings.startOfDay a v status (request.stamp plan)
  buildResource := resourceValue d inquiry

end VisitService
end WaterCare.Service
