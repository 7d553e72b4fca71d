import WaterCare.Service.Consultant

/-!
The operations of the owning customer on an inquiry before its completion:
`submit_symptom`, `FollowUpAnswerService`, `ConsultationRequestService` and
`InquiryService.cancel`, which staff may call too.
-/

namespace WaterCare.Service
open Workflow Store Py
open Engine (validIdempotencyKey Reason)

/-- `from_models` on the rows the database holds, as the codes of a conflict list them. -/
def currentActions (d : Directory) (a : Aggregate) (actor : User) : List ActionEntry :=
  (AllowedActionContext.ofAggregate d a actor).resolve

/-- The body `submit_symptom` and `cancel` answer with. -/
def stateBody (q : Inquiry) (actions : List ActionEntry) : Dict :=
  dictOf [("inquiry_id", publicId q.id), ("state", .str q.status.code),
    ("state_version", natural q.stateVersion), ("idempotent_replay", .bool false),
    ("allowed_actions", actionDocuments actions)]

section
variable (settings : Settings) (d : Directory) (request : Request) (inquiry stateVersion : Nat)

/-! ### The symptom -/

def symptomFailure (failure : GuardFailure) : Failure :=
  .business "VALIDATION_ERROR" "입력값을 확인해 주세요."
    (dictOf [("symptom", texts [failure.message])]) 422

def submitSymptom : InquiryAction where
  operationId := .submitSymptom
  event := .submitSymptom
  inquiry := inquiry
  requestHash := settings.inquiryHash inquiry (stateVersionBody stateVersion)
  requestedVersion := stateVersion
  workflowActor := request.actor
  lock := d.owns request.actor
  prepare _ := .ok .empty
  conflictReasons := [.terminalState, .unlistedTransition]
  conflict a _ := stateConflict stateChanged a.q (currentActions d a request.actor)
  unresolved := .internalError requestFailed
  requiredEffects := []
  domainResults a _ := [(.inquiryOwner, true), (.symptomPayloadValid, symptomPayloadIsValid d a.q)]
  conflictGuards := [.stateVersion]
  guardFailure := guardFailure symptomFailure fun _ => .internalError requestFailed
  mutate _ a _ _ := .ok (a, .root)
  apply := applyStateTransition
  settle := .ok
  records _ := true
  changeReason _ := none
  finish _ _ recorded _ := .ok recorded
  respond written _ _ := stateBody written.q (currentActions d written request.actor)

/-! ### Follow-up answers -/

/-- An answer of the request. -/
structure FollowUpAnswerItem where
  questionId : Nat
  answerText : Option String
  answerPayload : Option Dict

/-- `public_question_options`. -/
def publicQuestionOptions (options : List String) : List String :=
  ((options.take 10).filter hasText).map fun option =>
    String.ofList ((strip option).toList.take 200)

/-- `_answer_matches_question`. -/
def answerMatchesQuestion (question : InquiryQA) (answer : FollowUpAnswerItem) : Bool :=
  if question.answerType = "FREE_TEXT" then
    answer.answerText.isSome && answer.answerPayload.isNone
  else if question.answerType = "SINGLE_CHOICE" then
    answer.answerText.isNone && answer.answerPayload.any fun payload =>
      (payload.map (·.1)).all (· == .str "selected_option") &&
        (publicQuestionOptions question.questionOptions).any fun option =>
          (lookup payload (.str "selected_option")).any fun selected => selected.eqStr option
  else false

namespace FollowUpAnswerItem

def document (item : FollowUpAnswerItem) : Value :=
  mapping <| [("question_id", publicId item.questionId)] ++
    (item.answerText.elim [] fun text => [("answer_text", Value.str text)]) ++
    item.answerPayload.elim [] fun payload => [("answer_payload", .dict payload)]

/-- `answers_by_question[question.public_id]`: the last answer of the question. -/
def ofQuestion (answers : List FollowUpAnswerItem) (question : InquiryQA) :
    Option FollowUpAnswerItem :=
  answers.reverse.find? fun item => decide (item.questionId = question.id)

end FollowUpAnswerItem

/-- `lock_unanswered_questions`. -/
def lockUnansweredQuestions (a : Aggregate) (answers : List FollowUpAnswerItem) :
    List InquiryQA :=
  sorted (fun p q => decide (p.sequenceNo ≤ q.sequenceNo)) (a.questions.filter fun question =>
    question.customerAnswer.isNone && (answers.map (·.questionId)).contains question.id)

/-- `create_followup_answer`, with `FollowUpAnswer.clean`. -/
def createFollowupAnswer (d : Directory) (actor : User) (a : Aggregate) (question : InquiryQA)
    (item : FollowUpAnswerItem) : Except Failure Aggregate :=
  let isOneValue := item.answerText.isSome != item.answerPayload.isSome
  let isFilled := item.answerText.all hasText && item.answerPayload.all fun p => !p.isEmpty
  let isOwner := decide ((d.customerOf a.q).bind (·.user) = some actor.id)
  if isOneValue && isFilled && isOwner then
    let answered := { question with
      customerAnswer := some
        ⟨actor.id, item.answerText.map strip, item.answerPayload, a.q.stateVersion⟩ }
    .ok { a with questions := replaceRow (·.id) answered a.questions }
  else .error (.raised "ValidationError")

/-- The loop over the questions of the request. -/
def answerQuestions (d : Directory) (actor : User) (answers : List FollowUpAnswerItem)
    (a : Aggregate) : List InquiryQA → Except Failure Aggregate
  | [] => .ok a
  | question :: rest =>
      match FollowUpAnswerItem.ofQuestion answers question with
      | none => .error (.raised "KeyError")
      | some item => do
          let answered ← createFollowupAnswer d actor a question item
          answerQuestions d actor answers answered rest

def answersAreValid (answers : List FollowUpAnswerItem) (questions : List InquiryQA) : Bool :=
  decide (questions.length = answers.length) && questions.all fun question =>
    (FollowUpAnswerItem.ofQuestion answers question).any (answerMatchesQuestion question)

def englishConflict : String := "The inquiry state has changed."

def submitAnswers (answers : List FollowUpAnswerItem) : InquiryAction where
  operationId := .submitFollowUpAnswers
  event := .submitAnswers
  inquiry := inquiry
  requestHash := settings.inquiryHash inquiry (mapping
    [("state_version", natural stateVersion), ("answers", .list (answers.map (·.document)))])
  requestedVersion := stateVersion
  workflowActor := request.actor
  lock := d.owns request.actor
  prepare a := .ok { ActionContext.empty with questions := lockUnansweredQuestions a answers }
  conflictReasons := [.terminalState, .unlistedTransition, .visitStateMismatch]
  conflict a _ := stateConflict englishConflict a.q (currentActions d a request.actor)
  unresolved := .internalError "The workflow contract could not be resolved."
  requiredEffects := []
  domainResults _ context :=
    [(.inquiryOwner, true), (.followupAnswersValid, answersAreValid answers context.questions)]
  conflictGuards := [.stateVersion]
  guardFailure := guardFailure
    (passedOn fun failure => dictOf [("answers", texts [failure.message])])
    fun _ => .internalError "The request could not be processed."
  mutate _ a context _ :=
    (answerQuestions d request.actor answers a context.questions).map fun written =>
      (written, .root)
  apply := applyStateTransition
  settle := .ok
  records rule := rule.recordBusinessEvent
  changeReason _ := none
  finish _ _ recorded _ := .ok recorded
  respond written _ _ :=
    transitionBody "Follow-up answers were saved." written.q (currentActions d written request.actor)
      .none

/-! ### The consultation request -/

/-- `from_models` with the locked consultation. -/
def consultationActions (a : Aggregate) (consultation : Option (Stored Consultation)) :
    List ActionEntry :=
  (AllowedActionContext.fromModels d a request.actor (consultation.map (·.1))
    (a.latestVisit.map (·.1)) (AllowedActionContext.openQuestions a request.actor)).resolve

/-- `fresh_resolved_feedback_exists` of `from_models`. -/
def freshInSnapshot (a : Aggregate) : Bool :=
  (AllowedActionContext.completionFacts a).any fun h => a.freshResolvedFeedback h.completedAt

def requestConsultation : InquiryAction where
  operationId := .requestConsultation
  event := .requestConsultation
  inquiry := inquiry
  requestHash := settings.inquiryHash inquiry (stateVersionBody stateVersion)
  requestedVersion := stateVersion
  workflowActor := request.actor
  lock := d.owns request.actor
  prepare a := .ok
    { ActionContext.empty with consultation := ConsultationRepository.lockLatest a }
  conflictReasons := [.terminalState, .unlistedTransition, .visitStateMismatch]
  conflict a context :=
    stateConflict stateChanged a.q (consultationActions d request a context.consultation)
  unresolved := .internalError requestFailed
  requiredEffects := ["UPSERT_CONSULTATION_REQUEST"]
  domainResults a _ :=
    [(.inquiryOwner, true), (.noFreshResolvedCustomerFeedback, !freshInSnapshot a)]
  conflictGuards := [.stateVersion, .noFreshResolvedCustomerFeedback]
  guardFailure := guardFailure (passedOn fun _ => []) (passedOn fun _ => [])
  mutate plan a context fresh := do
    let (requested, consultation) ← ConsultationRepository.request d a (request.stamp plan)
      context.consultation fresh request.now
    let (attached, consultation) ←
      ConsultationHandoffRepository.attachToLatestConsultation requested consultation
    pure (attached, .consultation consultation)
  apply := applyStateTransition
  settle := .ok
  records rule := rule.recordBusinessEvent
  changeReason _ := none
  finish _ _ recorded _ := .ok recorded
  respond written _ resource :=
    let consultation :=
      match resource with
      | .consultation c => some c
      | .root | .visit _ | .followup _ => none
    transitionBody "상담 요청이 접수되었습니다." written.q
      (consultationActions d request written consultation) .none

/-! ### Cancellation -/

/-- `lock_cancellable_inquiry`. -/
def isCancellable (actor : User) (q : Inquiry) : Bool :=
  match actor.role with
  | .customer => d.owns actor q
  | .consultant =>
      decide (q.assignedUser = some actor.id) && decide (q.assignedRole = .consultant)
  | .operator => hasCancelPermission actor
  | .technician => false

structure Cancellation where
  reasonCode : CancellationReason
  reasonDetail : Option String

namespace Cancellation

def body (stateVersion : Nat) (cancellation : Cancellation) : Value :=
  mapping
    [("state_version", natural stateVersion), ("reason_code", .str cancellation.reasonCode.code),
      ("reason_detail", .ofOption cancellation.reasonDetail)]

/-- The change reason of `record_cancel_inquiry`. -/
def changeReason (cancellation : Cancellation) : String :=
  let detail := strip (cancellation.reasonDetail.getD "")
  if detail = "" then cancellation.reasonCode.code
  else cancellation.reasonCode.code ++ " | " ++ detail

/-- `mark_cancelled`. -/
def markCancelled (cancellation : Cancellation) (now : Instant) (plan : Plan) (q : Inquiry) :
    Inquiry :=
  { q with
    status := plan.rule.target
    stateVersion := plan.version
    cancelledAt := some now
    cancellationReason := some cancellation.reasonCode
    cancellationDetail := cancellation.reasonDetail }

end Cancellation

def cancelRun (now : Instant) (run : Stored AIRun) : Except Failure (Stored AIRun) :=
  match run.1.status with
  | .queued | .running | .retrying =>
      save
        { run.1 with
          status := .cancelled, completedAt := some now, errorCode := "CANCELLED_BY_INQUIRY" }
        "IntegrityError"
  | .succeeded | .noEvidence | .failed | .timedOut | .cancelled => .ok run

/-- `_cancel_active_ai_runs`. -/
def cancelActiveAiRuns (now : Instant) (a : Aggregate) : Except Failure Aggregate := do
  let runs ← a.runs.mapM (cancelRun now)
  pure { a with runs := runs }

def cancel (cancellation : Cancellation) : InquiryAction where
  operationId := .cancelInquiry
  event := .cancelInquiry
  inquiry := inquiry
  requestHash := settings.inquiryHash inquiry (cancellation.body stateVersion)
  requestedVersion := stateVersion
  workflowActor := request.actor
  lock := isCancellable d request.actor
  prepare _ := .ok .empty
  conflictReasons := [.terminalState, .unlistedTransition, .visitStateMismatch,
    .visitStatusNotAllowed]
  conflict a _ := stateConflict stateChanged a.q (currentActions d a request.actor)
  unresolved := .internalError "The cancellation contract could not be evaluated."
  requiredEffects := []
  domainResults _ _ := [(.cancelActorAuthorized, true), (.cancellationReason, true)]
  conflictGuards := [.stateVersion]
  guardFailure := guardFailure
    (passedOn fun failure => dictOf [("reason_code", texts [failure.message])])
    fun _ => .internalError "The cancellation contract could not be evaluated."
  mutate plan a _ _ :=
    (ConsultationRepository.cancelActive d a (request.stamp plan)).map fun written =>
      (written, .root)
  apply := cancellation.markCancelled request.now
  settle := cancelActiveAiRuns request.now
  records _ := true
  changeReason _ := some cancellation.changeReason
  finish _ _ recorded _ := .ok recorded
  respond written _ _ := stateBody written.q (currentActions d written request.actor)

end
end WaterCare.Service
