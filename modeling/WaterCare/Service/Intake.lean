import WaterCare.Service.Customer

/-!
The two ways an inquiry comes into being: `InquiryService.create` by the customer,
who may link a submitted questionnaire session, and the phone registration by a
consultant.
-/

namespace WaterCare.Service
open Workflow Store Py
open Engine (validIdempotencyKey Reason)

/-- A new inquiry with the defaults of the model. -/
def newInquiry (id subscription initiatedBy : Nat) (channel : Channel) (rawText : String)
    (status : InquiryState) (stateVersion : Nat) : Inquiry where
  id := id
  inquiryCode := "INQ-" ++ toString id
  subscription := subscription
  initiatedBy := initiatedBy
  assignedUser := none
  assignedRole := .none
  channel := some channel
  rawText := rawText
  riskLevel := none
  priority := .normal
  usageGuidanceStatus := none
  evidenceIds := []
  evidenceMode := none
  requiresFallback := false
  status := status
  stateVersion := stateVersion
  cancelledAt := none
  cancellationReason := none
  cancellationDetail := none

def emptyAggregate (inquiry : Stored Inquiry) : Aggregate where
  inquiry := inquiry
  consultations := []
  visits := []
  followups := []
  history := []
  visitHistory := []
  questions := []
  guidances := []
  assessments := []
  reviews := []
  runs := []
  causeLedgers := []
  handoffs := []
  handoffReports := []
  actionResults := []

/-- The body of a created inquiry. -/
def createdBody (q : Inquiry) (actions : List ActionEntry) : Dict :=
  dictOf [("inquiry_id", publicId q.id), ("inquiry_code", .str q.inquiryCode),
    ("status_code", .str q.status.code), ("state_version", natural q.stateVersion),
    ("idempotent_replay", .bool false), ("allowed_actions", actionDocuments actions)]

/-! ### The customer -/

/-- `find_active_owned_subscription`. -/
def findActiveOwnedSubscription (d : Directory) (actor : User) (id : Nat) : Option Subscription :=
  (d.subscription id).filter fun s =>
    decide (s.status = .active) && (d.customer s.customer).any fun c =>
      decide (c.1.user = some actor.id) && c.1.deletedAt.isNone

/-- `subscription__customer__user=actor` with a customer that is not deleted. -/
def ownsSession (d : Directory) (actor : User) (s : QuestionnaireSession) : Bool :=
  ((d.subscription s.subscription).bind fun sub => d.customer sub.customer).any fun c =>
    decide (c.1.user = some actor.id) && c.1.deletedAt.isNone

namespace InquiryLinkService

/-- `lock_candidate`. -/
def lockCandidate (w : World) (actor : User) (subscription : Subscription) (session : Nat) :
    Except Failure SessionAggregate :=
  match (w.sessions.lookup session).filter fun s =>
      decide (s.session.1.subscription = subscription.id) &&
        ownsSession w.directory actor s.session.1 with
  | none => .error .notFound
  | some s =>
      if s.session.1.status ≠ .submitted ∨ s.session.1.inquiry.isSome then
        .error (.business "STATE-CONFLICT-01"
          "제출 완료되고 아직 연결되지 않은 문진만 사용할 수 있습니다."
          (dictOf [("current_status", .str s.session.1.status.code),
            ("current_state_version", natural s.session.1.stateVersion),
            ("linked", .bool s.session.1.inquiry.isSome)]) 409)
      else .ok s

/-- `link`. -/
def link (request : Request) (inquiry : Nat) (s : SessionAggregate) :
    Except Failure SessionAggregate := do
  let linked ← save
    { s.session.1 with
      inquiry := some inquiry
      linkedAt := some request.now
      stateVersion := s.session.1.stateVersion + 1 } "ValidationError"
  SessionAggregate.recordHistory { s with session := linked }
    { actor := request.actor.id, event := .startInquiry, fromState := some s.session.1.status
      toState := s.session.1.status, stateVersion := s.session.1.stateVersion + 1
      correlationId := request.correlationId.1, idempotencyKey := request.idempotencyKey.1
      changedAt := request.now }

def lockOptional (w : World) (actor : User) (subscription : Subscription) :
    Option Nat → Except Failure (Option SessionAggregate)
  | none => .ok none
  | some session => (lockCandidate w actor subscription session).map some

def linkOptional (request : Request) (inquiry : Nat) (w : World) :
    Option SessionAggregate → Except Failure World
  | none => .ok w
  | some candidate => do
      let linked ← link request inquiry candidate
      pure { w with sessions := (w.sessions.insert linked.session.1.id linked) }

end InquiryLinkService

/-- The writes of a creation: the inquiry, the link of its questionnaire session, the
history row and the completed record. -/
def createInquiry (request : Request) (operation : OperationId) (requestHash : String)
    (q : Inquiry) (event : EventCode) (session : Option SessionAggregate) (pending : World) :
    Except Failure (World × Answer) := do
  let stored ← save q "IntegrityError"
  let linked ← InquiryLinkService.linkOptional request q.id pending session
  let created ← (emptyAggregate stored).recordHistory
    { actor := .user request.actor.id, event := event, fromState := none, toState := q.status
      stateVersion := q.stateVersion, correlationId := request.correlationId.1
      idempotencyKey := request.idempotencyKey.1, changeReason := none, changedAt := request.now }
  pure (linked.commit q.id created (request.scope operation) requestHash 201
    (createdBody q (currentActions pending.directory created request.actor)) q.id request.now 1)

structure StartValues where
  subscriptionId : Nat
  channelCode : Channel
  rawText : String
  representativeSymptomCode : Option String
  questionnaireSessionId : Option Nat

namespace StartValues

def body (values : StartValues) : Value :=
  mapping
    [("subscription_id", publicId values.subscriptionId),
      ("channel_code", .str values.channelCode.code), ("raw_text", .str values.rawText),
      ("representative_symptom_code", .ofOption values.representativeSymptomCode),
      ("questionnaire_session_id", optional publicId values.questionnaireSessionId)]

end StartValues

def startHash (settings : Settings) (values : StartValues) : String :=
  settings.canonicalRequestHash (normalizedRequest [] values.body values.subscriptionId)

/-- `InquiryService.create`. -/
def startInquiry (settings : Settings) (request : Request) (values : StartValues) (w : World) :
    Except Failure (World × Answer) :=
  match findActiveOwnedSubscription w.directory request.actor values.subscriptionId with
  | none => .error .notFound
  | some subscription =>
      match w.records.lookup (request.scope .startInquiry) with
      | some existing => w.replay existing (startHash settings values)
      | none =>
          w.withIdempotencyRecord (request.scope .startInquiry) (startHash settings values)
            fun pending => do
              let session ← InquiryLinkService.lockOptional w request.actor subscription
                values.questionnaireSessionId
              createInquiry request .startInquiry (startHash settings values)
                (newInquiry w.nextId subscription.id request.actor.id values.channelCode
                  values.rawText .draft 1)
                .startInquiry session pending

/-! ### The consultant on the phone -/

/-- `lock_active_synthetic_subscription`. -/
def lockActiveSyntheticSubscription (d : Directory) (id : Nat) : Option Subscription :=
  (d.subscription id).filter fun s =>
    decide (s.status = .active) && (d.customer s.customer).any fun c =>
      c.1.deletedAt.isNone && c.1.isSynthetic &&
        (c.1.user.bind d.user).any fun user => user.isActive && user.isSynthetic

structure PhoneValues where
  subscriptionId : Nat
  rawText : String
  representativeSymptomCode : String
  priorityCode : Priority

namespace PhoneValues

def body (values : PhoneValues) : Value :=
  mapping
    [("subscription_id", publicId values.subscriptionId), ("raw_text", .str values.rawText),
      ("representative_symptom_code", .str values.representativeSymptomCode),
      ("priority_code", .str values.priorityCode.code)]

/-- The inquiry of the registration, assigned to the consultant. -/
def inquiry (values : PhoneValues) (actor : User) (plan : Plan) (id subscription : Nat) :
    Inquiry :=
  { newInquiry id subscription actor.id .phone values.rawText plan.rule.target plan.version with
    assignedUser := some actor.id
    assignedRole := .consultant
    priority := values.priorityCode }

end PhoneValues

def phoneContext (request : Request) : GuardContext where
  actorRole := request.actor.role.actorRole
  isAuthenticated := true
  trustedInternalActor := false
  correlationId := request.correlationId.1
  idempotencyKey := some request.idempotencyKey.1
  requestedStateVersion := none
  domainResults := [(.consultantPhoneSubscription, true)]

/-- `ConsultantPhoneInquiryService.register`. -/
def registerPhoneInquiry (settings : Settings) (request : Request) (values : PhoneValues)
    (w : World) : Except Failure (World × Answer) :=
  let requestHash :=
    settings.canonicalRequestHash (normalizedRequest [] values.body values.subscriptionId)
  match lockActiveSyntheticSubscription w.directory values.subscriptionId with
  | none => .error .notFound
  | some subscription =>
      match w.records.lookup (request.scope .registerConsultantPhoneInquiry) with
      | some existing => w.replay existing requestHash
      | none =>
          match shipped.resolve ⟨none, none⟩ .registerPhoneInquiry with
          | .error _ => .error (.raised "InvalidStateTransition")
          | .ok plan =>
              match shipped.evaluate plan.rule ⟨none, none⟩ (phoneContext request) with
              | some failure => .error (passedOn (fun _ => []) failure)
              | none =>
                  w.withIdempotencyRecord (request.scope .registerConsultantPhoneInquiry)
                    requestHash
                    (createInquiry request .registerConsultantPhoneInquiry requestHash
                      (values.inquiry request.actor plan w.nextId subscription.id)
                      plan.rule.event none)

end WaterCare.Service
