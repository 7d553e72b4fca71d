import WaterCare.Machine.Run
import WaterCare.Service.Intake

/-!
`QuestionnaireService`: the customer starts, saves and submits the questionnaire session of a
subscription. Together with the creation of inquiries, which links a submitted session, these are
all the operations that write a session.
-/

namespace WaterCare.Service
open Workflow Store Py

namespace QuestionnaireService

def carePrecheckVersion : String := "CARE_PRECHECK-v1"

/-- `_serialize` of a session after a new operation on it. -/
def serialize (s : QuestionnaireSession) : Dict :=
  dictOf [("questionnaire_session_id", publicId s.id),
    ("subscription_id", publicId s.subscription),
    ("questionnaire_type_code", .str "CARE_PRECHECK"),
    ("questionnaire_version", .str carePrecheckVersion), ("status_code", .str s.status.code),
    ("state_version", natural s.stateVersion), ("answers", .dict s.answersPayload),
    ("started_at", isoformat s.startedAt), ("submitted_at", optional isoformat s.submittedAt),
    ("linked_inquiry_id", optional publicId s.inquiry), ("idempotent_replay", .bool false)]

/-- `_raise_state_conflict`. -/
def stateConflict (s : QuestionnaireSession) : Failure :=
  .business "STATE-CONFLICT-01" "다른 요청이 문진 세션 상태를 먼저 변경했습니다."
    (dictOf [("current_status", .str s.status.code),
      ("current_state_version", natural s.stateVersion)]) 409

/-- `_begin_idempotent_operation` with the rest of the transaction. -/
def beginIdempotentOperation (w : World) (scope : Scope) (requestHash : String)
    (rest : World → Except Failure (World × Answer)) : Except Failure (World × Answer) :=
  match w.records.lookup scope with
  | some existing => w.replay existing requestHash
  | none => w.withIdempotencyRecord scope requestHash rest

/-- The end of a transaction: the written session, the completed record and the answer. -/
def complete (w : World) (s : SessionAggregate) (scope : Scope) (requestHash : String)
    (status : Nat) (now : Instant) (used : Nat) : World × Answer :=
  ({ { w with sessions := (w.sessions.insert s.session.1.id s) }.completeIdempotencyRecord scope
      requestHash status (serialize s.session.1) s.session.1.id now with
      nextId := w.nextId + used },
    .fresh status (serialize s.session.1))

/-! ### The start -/

def creationKey (settings : Settings) (request : Request) : String :=
  settings.canonicalRequestHash (mapping
    [("actor_public_id", publicId request.actor.id),
      ("operation_id", .str OperationId.startCarePrecheck.code),
      ("idempotency_key", .str request.idempotencyKey.1)])

/-- A new session with the defaults of the model. -/
def newSession (id subscription : Nat) (creationIdempotencyKey : String) (now : Instant) :
    QuestionnaireSession where
  id := id
  subscription := subscription
  inquiry := none
  status := .unanswered
  answersPayload := []
  stateVersion := 1
  startedAt := now
  submittedAt := none
  linkedAt := none
  creationIdempotencyKey := creationIdempotencyKey

def startHash (settings : Settings) (subscription : Nat) : String :=
  settings.canonicalRequestHash
    (normalizedRequest [] (mapping [("subscription_id", publicId subscription)]) subscription)

/-- `full_clean` and `save` of a new session; the creation key is unique. -/
def insertSession (w : World) (s : QuestionnaireSession) :
    Except Failure (Stored QuestionnaireSession) :=
  if w.sessions.entries.any fun entry =>
      decide (entry.2.session.1.creationIdempotencyKey = s.creationIdempotencyKey) then
    .error (.raised "ValidationError")
  else save s "ValidationError"

/-- `start`. -/
def start (settings : Settings) (request : Request) (subscription : Nat) (w : World) :
    Except Failure (World × Answer) :=
  match findActiveOwnedSubscription w.directory request.actor subscription with
  | none => .error .notFound
  | some owned =>
      beginIdempotentOperation w (request.scope .startCarePrecheck)
        (startHash settings subscription) fun pending => do
          let opened ← insertSession w
            (newSession w.nextId owned.id (creationKey settings request) request.now)
          let recorded ← SessionAggregate.recordHistory ⟨opened, []⟩
            { actor := request.actor.id, event := .startCarePrecheck, fromState := none
              toState := opened.1.status, stateVersion := opened.1.stateVersion
              correlationId := request.correlationId.1
              idempotencyKey := request.idempotencyKey.1, changedAt := request.now }
          pure (complete pending recorded (request.scope .startCarePrecheck)
            (startHash settings subscription) 201 request.now 1)

/-! ### The mutations -/

/-- What `save` and `submit` hand to `_mutate`. -/
structure Mutation where
  operationId : OperationId
  event : SessionEvent
  target : SessionStatus

def saving : Mutation := ⟨.saveCarePrecheck, .saveCarePrecheck, .inProgress⟩

def submitting : Mutation := ⟨.submitCarePrecheck, .submitCarePrecheck, .submitted⟩

/-- The body of a mutation. -/
structure Answers where
  stateVersion : Nat
  answers : Dict

/-- `lock_owned_session`. -/
def lockOwnedSession (w : World) (actor : User) (session : Nat) : Option SessionAggregate :=
  (w.sessions.lookup session).filter fun s => ownsSession w.directory actor s.session.1

def mutationHash (settings : Settings) (session : Nat) (body : Answers) : String :=
  settings.canonicalRequestHash
    (normalizedRequest [("questionnaire_session_id", publicId session)]
      (mapping [("state_version", natural body.stateVersion), ("answers", .dict body.answers)])
      session)

namespace Mutation
variable (m : Mutation)

/-- The row a mutation leaves. -/
def apply (s : QuestionnaireSession) (answers : Dict) (now : Instant) : QuestionnaireSession :=
  { s with
    answersPayload := answers
    status := m.target
    stateVersion := s.stateVersion + 1
    submittedAt := if m.target = .submitted then some now else s.submittedAt }

/-- The writes of a mutation on the locked session. -/
def write (request : Request) (s : SessionAggregate) (body : Answers) :
    Except Failure SessionAggregate :=
  if s.session.1.status = .submitted then .error (stateConflict s.session.1)
  else if s.session.1.stateVersion ≠ body.stateVersion then .error (stateConflict s.session.1)
  else do
    let saved ← save (m.apply s.session.1 body.answers request.now) "ValidationError"
    SessionAggregate.recordHistory { s with session := saved }
      { actor := request.actor.id, event := m.event, fromState := some s.session.1.status
        toState := saved.1.status, stateVersion := saved.1.stateVersion
        correlationId := request.correlationId.1, idempotencyKey := request.idempotencyKey.1
        changedAt := request.now }

/-- `_mutate`. -/
def perform (settings : Settings) (request : Request) (session : Nat) (body : Answers)
    (w : World) : Except Failure (World × Answer) :=
  match lockOwnedSession w request.actor session with
  | none => .error .notFound
  | some s =>
      beginIdempotentOperation w (request.scope m.operationId)
        (mutationHash settings session body) fun pending => do
          let written ← m.write request s body
          pure (complete pending written (request.scope m.operationId)
            (mutationHash settings session body) 200 request.now 0)

end Mutation
end QuestionnaireService

/-! ### Runs -/

/-- An operation that writes a questionnaire session. -/
inductive Precheck
  | startCarePrecheck (subscription : Nat)
  | saveCarePrecheck (session : Nat) (body : QuestionnaireService.Answers)
  | submitCarePrecheck (session : Nat) (body : QuestionnaireService.Answers)
  | startInquiry (values : StartValues)

namespace Precheck
open QuestionnaireService

def perform (settings : Settings) (request : Request) (w : World) :
    Precheck → Except Failure (World × Answer)
  | startCarePrecheck subscription => start settings request subscription w
  | saveCarePrecheck session body => saving.perform settings request session body w
  | submitCarePrecheck session body => submitting.perform settings request session body w
  | startInquiry values => Service.startInquiry settings request values w

/-- The session an operation is about, where it exists before. -/
def session : Precheck → Option Nat
  | startCarePrecheck _ => none
  | saveCarePrecheck session _ | submitCarePrecheck session _ => some session
  | startInquiry values => values.questionnaireSessionId

end Precheck

/-- A request with what it has been answered. -/
structure PrecheckEvent where
  request : Request
  operation : Precheck
  outcome : Except Failure Answer

/-- The event is a save, a submission or a link of the session that has committed anew. -/
def PrecheckEvent.writes (session : Nat) (e : PrecheckEvent) : Bool :=
  decide (e.operation.session = some session) &&
    match e.outcome with
    | .ok answer => !answer.replayed
    | .error _ => false

/-- One atomic operation of an account on the questionnaire sessions. -/
def PrecheckStep (settings : Settings) (w : World) (e : PrecheckEvent) (t : World) : Prop :=
  w.directory.user e.request.actor.id = some e.request.actor ∧
    match e.operation.perform settings e.request w with
    | .ok (written, answer) => t = written ∧ e.outcome = .ok answer
    | .error failure => t = w ∧ e.outcome = .error failure

end WaterCare.Service
