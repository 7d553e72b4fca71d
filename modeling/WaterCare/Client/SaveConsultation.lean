import WaterCare.Machine.Run
import WaterCare.Py.Text

/-!
`useSaveConsultation` over `requestApi`: the actions of a consultant on an inquiry and the
idempotency keys their requests carry. A request may be lost, time out, or be answered by
something that is no reply of the Backend.
-/

namespace WaterCare.Client.SaveConsultation
open Machine

/-- White space for `String.prototype.trim`. -/
def isWhite (c : Char) : Bool :=
  (Py.isSpace c && !(28 ≤ c.toNat && c.toNat ≤ 31) && c.toNat != 0x85) || c.toNat == 0xFEFF

/-- `trim`. -/
def trim (s : String) : String :=
  String.ofList ((s.toList.dropWhile isWhite).reverse.dropWhile isWhite).reverse

/-! ### Actions and forms -/

inductive ActionCode
  | cancelInquiry
  | startConsultation
  | updateConsultationSummary
  | confirmConsultationSummary
  | consultationCompleted
  | visitReviewRequired
  | visitNeeded
  | visitNotNeeded
  | updateVisitSchedule
  | confirmVisit
  | resumeConsultation
  | finalizeInquiry
  deriving DecidableEq, Repr

/-- `CounselorAllowedAction`. -/
structure AllowedAction where
  code : ActionCode
  label : String
  operationId : String
  requiresConfirmation : Bool
  confirmationMessage : Option String
  deriving DecidableEq, Repr

inductive VisitRequired
  | undecided
  | required
  | notRequired
  deriving DecidableEq, Repr

/-- `ConsultationFormValues`. -/
structure FormValues where
  consultationNote : String
  additionalCheck : String
  customerGuidance : String
  consultationResult : String
  summaryRevision : String
  summaryConfirmed : Bool
  visitRequired : VisitRequired
  usageStatus : String
  deriving DecidableEq, Repr

/-- `ConsultationRuntimeInquiry`. The result of an action may have left it without a status. -/
structure RuntimeInquiry where
  inquiryId : String
  status : Option String
  stateVersion : Int
  allowedActions : List AllowedAction
  deriving DecidableEq, Repr

/-- The call of an action: what `execute` reads of the inquiry, the action and the form. -/
structure Operation where
  inquiryId : String
  stateVersion : Int
  action : AllowedAction
  values : FormValues
  deriving DecidableEq, Repr

/-- `requestPayload`, whose JSON text is the signature of the operation. -/
structure RequestPayload where
  inquiryId : String
  actionCode : ActionCode
  operationId : String
  stateVersion : Int
  consultationNote : String
  additionalCheck : String
  customerGuidance : String
  consultationResult : String
  summaryRevision : String
  summaryConfirmed : Bool
  visitRequired : VisitRequired
  usageGuidanceStatus : String
  deriving DecidableEq, Repr

def Operation.payload (o : Operation) : RequestPayload where
  inquiryId := o.inquiryId
  actionCode := o.action.code
  operationId := o.action.operationId
  stateVersion := o.stateVersion
  consultationNote := trim o.values.consultationNote
  additionalCheck := trim o.values.additionalCheck
  customerGuidance := trim o.values.customerGuidance
  consultationResult := trim o.values.consultationResult
  summaryRevision := trim o.values.summaryRevision
  summaryConfirmed := o.values.summaryConfirmed
  visitRequired := o.values.visitRequired
  usageGuidanceStatus := o.values.usageStatus

/-! ### Requests -/

inductive ResultCode
  | pending
  | completedNoVisit
  | visitRequired
  deriving DecidableEq, Repr

/-- `resultCode`. -/
def resultCode (values : FormValues) : ResultCode :=
  match values.visitRequired with
  | .required => .visitRequired
  | .notRequired => .completedNoVisit
  | .undecided => .pending

inductive Body
  | transition (stateVersion : Int)
  | cancel (stateVersion : Int) (reasonCode reasonDetail : String)
  | summary (stateVersion : Int) (summary : Option String)
      (consultationNote additionalCheck customerGuidance : String) (resultCode : ResultCode)
      (usageGuidanceStatus : String)
  deriving DecidableEq, Repr

inductive Method
  | post
  | patch
  deriving DecidableEq, Repr

/-- The method, the path by its segments, and the body. -/
structure Content where
  method : Method
  path : List String
  body : Body
  deriving DecidableEq, Repr

/-- The request of the write repository; the actions on visits have none. -/
def Operation.content (o : Operation) : Option Content :=
  let post (segments : List String) (body : Body) : Option Content :=
    some ⟨.post, ["inquiries", o.inquiryId] ++ segments, body⟩
  match o.action.code with
  | .cancelInquiry =>
      post ["cancel"] (.cancel o.stateVersion "OTHER" "상담사 화면에서 문의 삭제 요청")
  | .startConsultation => post ["start-consultation"] (.transition o.stateVersion)
  | .updateConsultationSummary =>
      let summary := trim o.values.summaryRevision
      some ⟨.patch, ["inquiries", o.inquiryId, "consultation-summary"],
        .summary o.stateVersion (if summary = "" then none else some summary)
          (trim o.values.consultationNote) (trim o.values.additionalCheck)
          (trim o.values.customerGuidance) (resultCode o.values) o.values.usageStatus⟩
  | .confirmConsultationSummary =>
      post ["consultation-summary", "confirm"] (.transition o.stateVersion)
  | .consultationCompleted => post ["complete-consultation"] (.transition o.stateVersion)
  | .resumeConsultation => post ["resume-consultation"] (.transition o.stateVersion)
  | .finalizeInquiry => post ["finalize"] (.transition o.stateVersion)
  | .visitReviewRequired | .visitNeeded | .visitNotNeeded | .updateVisitSchedule
  | .confirmVisit => none

/-- A request that is sent, and the operation it is sent for. -/
structure Request where
  operation : Operation
  content : Content
  idempotencyKey : Nat
  correlationId : Nat
  deriving DecidableEq, Repr

/-! ### Replies -/

/-- `ApiErrorPayload`, with the details that are read. -/
structure ErrorPayload where
  code : String
  message : String
  currentStateVersion : Option Int
  currentStatus : Option String
  allowedActions : List String
  deriving DecidableEq, Repr

/-- The `error` of a reply. -/
inductive ErrorField
  | absent
  | malformed
  | payload (error : ErrorPayload)
  deriving DecidableEq, Repr

/-- `StateTransitionResultDto` as it was read. Only the allowed actions are asked for. -/
structure TransitionResult where
  message : Option String
  status : Option String
  stateVersion : Option Int
  allowedActions : List AllowedAction
  deriving DecidableEq, Repr

/-- Whether a result has all its fields. -/
def TransitionResult.isComplete (result : TransitionResult) : Bool :=
  result.message.isSome && result.status.isSome && result.stateVersion.isSome

/-- The `data` of a reply. Without a list of allowed actions, reading it throws a `TypeError`. -/
inductive Data
  | missing
  | malformed
  | result (value : TransitionResult)
  deriving DecidableEq, Repr

/-- What the body of a response is read as: nothing, when it is not JSON or breaks off; JSON
without the common structure; or a reply. -/
inductive ResponseBody
  | unreadable
  | foreign
  | reply (success : Bool) (error : ErrorField) (data : Data)
  deriving DecidableEq, Repr

/-- How a `fetch` ends. -/
inductive Delivery
  | rejected
  | aborted
  | response (status : Nat) (body : ResponseBody)
  deriving DecidableEq, Repr

inductive ErrorKind
  | badRequest
  | unauthorized
  | forbidden
  | notFound
  | conflict
  | validationError
  | serverError
  | networkError
  | timeout
  | parseError
  | unknownError
  | runtimeBlocked
  deriving DecidableEq, Repr

/-- `getApiErrorKind`. -/
def getApiErrorKind (status : Nat) : ErrorKind :=
  if status = 400 then .badRequest
  else if status = 401 then .unauthorized
  else if status = 403 then .forbidden
  else if status = 404 then .notFound
  else if status = 409 then .conflict
  else if status = 422 then .validationError
  else if status ≥ 500 then .serverError
  else .unknownError

/-- `ApiClientError`. -/
structure ClientError where
  kind : ErrorKind
  status : Option Nat
  error : ErrorPayload
  deriving DecidableEq, Repr

def plainError (code message : String) : ErrorPayload := ⟨code, message, none, none, []⟩

/-- `response.ok`. -/
def isOk (status : Nat) : Bool := 200 ≤ status && status ≤ 299

/-- The status of the response, if there is one. -/
def Delivery.status : Delivery → Option Nat
  | .rejected | .aborted => none
  | .response status _ => some status

/-- `executeApiRequest`, from the end of its `fetch` on. -/
def executeApiRequest : Delivery → Except ClientError Data
  | .rejected => .error ⟨.networkError, none, plainError "" "네트워크에 연결하지 못했습니다."⟩
  | .aborted => .error
      ⟨.timeout, none, plainError "" "요청 시간이 초과되었습니다. 잠시 후 다시 시도해 주세요."⟩
  | .response status .unreadable => .error
      ⟨.parseError, some status, plainError "" "서버 응답 형식을 확인할 수 없습니다."⟩
  | .response status .foreign => .error
      ⟨.parseError, some status, plainError "" "공통 API 응답 구조와 일치하지 않습니다."⟩
  | .response status (.reply success error data) =>
      if isOk status && success && error == .absent then .ok data
      else .error ⟨getApiErrorKind status, some status,
        match error with
        | .payload payload => payload
        | _ => plainError "UNKNOWN_ERROR" "요청 처리 중 오류가 발생했습니다."⟩

/-- What the `try` block of `execute` ends in: a result, an `ApiClientError`, or another. -/
inductive Caught
  | client (error : ClientError)
  | other
  deriving DecidableEq, Repr

def readResult : Except ClientError Data → Except Caught TransitionResult
  | .error error => .error (.client error)
  | .ok .missing => .error (.client
      ⟨.parseError, none, plainError "" "서버 응답에 상태 변경 결과가 없습니다."⟩)
  | .ok .malformed => .error .other
  | .ok (.result value) => .ok value

/-- `ConsultationActionErrorDetails`: the kind, and the snapshot of a state conflict. -/
structure ErrorDetails where
  kind : ErrorKind
  message : String
  stateConflict : Option RuntimeInquiry
  deriving DecidableEq, Repr

def actionCodeText : ActionCode → String
  | .cancelInquiry => "CANCEL_INQUIRY"
  | .startConsultation => "START_CONSULTATION"
  | .updateConsultationSummary => "UPDATE_CONSULTATION_SUMMARY"
  | .confirmConsultationSummary => "CONFIRM_CONSULTATION_SUMMARY"
  | .consultationCompleted => "CONSULTATION_COMPLETED"
  | .visitReviewRequired => "VISIT_REVIEW_REQUIRED"
  | .visitNeeded => "VISIT_NEEDED"
  | .visitNotNeeded => "VISIT_NOT_NEEDED"
  | .updateVisitSchedule => "UPDATE_VISIT_SCHEDULE"
  | .confirmVisit => "CONFIRM_VISIT"
  | .resumeConsultation => "RESUME_CONSULTATION"
  | .finalizeInquiry => "FINALIZE_INQUIRY"

/-- `nextError`, of what was caught in a call that was rendered with an inquiry. -/
def nextError (view : RuntimeInquiry) : Caught → ErrorDetails
  | .other => ⟨.networkError, "알 수 없는 연결 오류가 발생했습니다. 입력 내용은 유지됩니다.", none⟩
  | .client caught =>
      match caught.kind with
      | .conflict =>
          match caught.error.code == "STATE-CONFLICT-01", caught.error.currentStateVersion with
          | true, some version =>
              ⟨.conflict, caught.error.message, some
                ⟨view.inquiryId, caught.error.currentStatus.or view.status, version,
                  view.allowedActions.filter fun action =>
                    caught.error.allowedActions.contains (actionCodeText action.code)⟩⟩
          | _, _ => ⟨.conflict, caught.error.message, none⟩
      | .parseError => ⟨.unknownError, caught.error.message, none⟩
      | kind => ⟨kind, caught.error.message, none⟩

/-- The argument of `operationTracker.fail`. -/
def isRetryable (kind : ErrorKind) : Bool :=
  kind == .networkError || kind == .timeout || kind == .serverError

/-! ### The hook -/

/-- `PendingOperation`. -/
structure PendingOperation where
  key : Nat
  signature : RequestPayload
  deriving DecidableEq, Repr

/-- Where the requests of a call stand: the first is under way, was answered with 401 while the
token is refreshed, or is sent again. -/
inductive Phase
  | requesting
  | refreshing (delivery : Delivery)
  | retrying
  deriving DecidableEq, Repr

/-- A call of `execute` that has sent a request. -/
structure Call where
  view : RuntimeInquiry
  request : Request
  phase : Phase
  deriving DecidableEq, Repr

/-- A call that has ended: its last request, how that one ended, and whether a 401 was left to a
handler that is gone. -/
structure Ended where
  request : Request
  last : Delivery
  orphaned : Bool
  deriving DecidableEq, Repr

/-- The hook on an inquiry. `rendered` is what `execute` sees; the requests that were sent and the
call that ended last are recorded for the statements below. -/
structure Hook where
  inquiry : RuntimeInquiry
  localSnapshot : Option RuntimeInquiry
  rendered : RuntimeInquiry
  pending : Option PendingOperation
  saving : Option Call
  success : Option TransitionResult
  error : Option ErrorDetails
  authConfigured : Bool
  keys : Nat
  correlations : Nat
  sent : List Request
  ended : Option Ended
  deriving DecidableEq, Repr

/-- The hook as it is mounted. -/
def mount (inquiry : RuntimeInquiry) (authConfigured : Bool) : Hook where
  inquiry := inquiry
  localSnapshot := none
  rendered := inquiry
  pending := none
  saving := none
  success := none
  error := none
  authConfigured := authConfigured
  keys := 0
  correlations := 0
  sent := []
  ended := none

/-- The status, the version and the actions that are rendered. -/
def Hook.view (s : Hook) : RuntimeInquiry :=
  match s.localSnapshot with
  | some snapshot =>
      if snapshot.inquiryId = s.inquiry.inquiryId ∧ snapshot.stateVersion > s.inquiry.stateVersion
      then snapshot else s.inquiry
  | none => s.inquiry

/-- `IdempotencyOperationTracker.begin`: the key, and the hook that has it pending. -/
def Hook.beginOperation (s : Hook) (signature : RequestPayload) : Nat × Hook :=
  match s.pending with
  | some pending =>
      if pending.signature = signature then (pending.key, s)
      else (s.keys, { s with pending := some ⟨s.keys, signature⟩, keys := s.keys + 1 })
  | none => (s.keys, { s with pending := some ⟨s.keys, signature⟩, keys := s.keys + 1 })

def Hook.operation (s : Hook) (action : AllowedAction) (values : FormValues) : Operation :=
  ⟨s.rendered.inquiryId, s.rendered.stateVersion, action, values⟩

/-- The start of `execute`, once it is confirmed. -/
def Hook.start (s : Hook) (action : AllowedAction) (values : FormValues) : Hook :=
  let operation := s.operation action values
  let begun := s.beginOperation operation.payload
  match operation.content with
  | none => { begun.2 with
      pending := none
      success := none
      error := some ⟨.runtimeBlocked, "방문 관련 작업은 방문 전환 화면에서 진행해 주세요.", none⟩
      ended := none }
  | some content =>
      let request : Request := ⟨operation, content, begun.1, s.correlations⟩
      { begun.2 with
        saving := some ⟨s.rendered, request, .requesting⟩
        success := none
        error := none
        correlations := s.correlations + 1
        sent := s.sent ++ [request]
        ended := none }

/-- After a refresh, a 401 calls the handler to clear the session; without a handler that throws
a `TypeError`. -/
def Hook.orphans (s : Hook) (call : Call) (last : Delivery) : Bool :=
  call.phase != .requesting && last.status == some 401 && !s.authConfigured

/-- What the `try` block of `execute` ends in. -/
def Hook.outcome (s : Hook) (call : Call) (last : Delivery) : Except Caught TransitionResult :=
  if s.orphans call last then .error .other else readResult (executeApiRequest last)

/-- The end of `execute`. -/
def Hook.conclude (s : Hook) (call : Call) (last : Delivery) : Hook :=
  let ended : Ended := ⟨call.request, last, s.orphans call last⟩
  match s.outcome call last with
  | .ok result => { s with
      saving := none
      ended := some ended
      pending := none
      success := some result
      -- a snapshot without a version is greater than none, and so is not rendered
      localSnapshot := result.stateVersion.map fun version =>
        ⟨s.inquiry.inquiryId, result.status, version, result.allowedActions⟩ }
  | .error caught =>
      let details := nextError call.view caught
      { s with
        saving := none
        ended := some ended
        pending := if isRetryable details.kind then s.pending else none
        error := some details
        localSnapshot := details.stateConflict.orElse fun _ => s.localSnapshot }

/-- The end of a request: a 401 is answered by a refresh, but not the second time. -/
def Hook.deliver (s : Hook) (call : Call) (delivery : Delivery) : Option Hook :=
  match call.phase with
  | .refreshing _ => none
  | .requesting =>
      if delivery.status = some 401 ∧ s.authConfigured then
        some { s with saving := some { call with phase := .refreshing delivery } }
      else some (s.conclude call delivery)
  | .retrying => some (s.conclude call delivery)

/-- The end of `refreshAccessTokenOnce`: without a token the first error is thrown again. -/
def Hook.refresh (s : Hook) (call : Call) (token : Option String) : Option Hook :=
  match call.phase with
  | .refreshing delivery =>
      if token.all (· = "") then some (s.conclude call delivery)
      else
        let request := { call.request with correlationId := s.correlations }
        some { s with
          saving := some { call with request := request, phase := .retrying }
          correlations := s.correlations + 1
          sent := s.sent ++ [request] }
  | _ => none

inductive Event
  | update (status : String) (stateVersion : Int) (allowedActions : List AllowedAction)
  | render
  | configureAuth (handled : Bool)
  | execute (action : AllowedAction) (values : FormValues) (confirmed : Bool)
  | deliver (delivery : Delivery)
  | refresh (token : Option String)
  deriving DecidableEq, Repr

def perform (s : Hook) : Event → Option Hook
  | .update status stateVersion allowedActions => some
      { s with inquiry := ⟨s.inquiry.inquiryId, some status, stateVersion, allowedActions⟩ }
  | .render => some { s with rendered := s.view }
  | .configureAuth handled => some { s with authConfigured := handled }
  | .execute action values confirmed =>
      if s.saving.isSome || (action.requiresConfirmation && !confirmed) then some s
      else some (s.start action values)
  | .deliver delivery => s.saving.bind fun call => s.deliver call delivery
  | .refresh token => s.saving.bind fun call => s.refresh call token

def Step (s : Hook) (event : Event) (t : Hook) : Prop := perform s event = some t

end WaterCare.Client.SaveConsultation
