import Mathlib.Logic.Function.Basic
import WaterCare.Client.IntakeRequest
import WaterCare.Machine.Pool
import WaterCare.Machine.Run

/-!
`RemoteIntakeCustomerCareRepository.submitIntake` with its Backend. A submission is two requests
under idempotency keys that the repository remembers by the fingerprint of the request. Requests
and replies may be lost or come late, and calls may overlap and be cancelled.
-/

namespace WaterCare.Client.IntakeRepository
open Machine Pool Kotlin

/-! ### Replies -/

/-- `InquiryResponse`; an allowed action is its code. -/
structure InquiryResponse where
  inquiryId : String
  inquiryCode : String
  statusCode : String
  stateVersion : Int
  idempotentReplay : Bool
  allowedActions : List String
  deriving DecidableEq

/-- `SubmitSymptomResponse`. -/
structure SubmitSymptomResponse where
  inquiryId : String
  state : String
  stateVersion : Int
  idempotentReplay : Bool
  allowedActions : List String
  deriving DecidableEq

/-- `StateConflictSnapshot`. -/
structure StateConflictSnapshot where
  currentStatus : Option String
  currentStateVersion : Option Int
  allowedActions : List String
  deriving DecidableEq

/-- `ApiResult.Failure`. -/
structure Failure where
  code : String
  message : String
  httpStatus : Option Nat
  retryable : Bool
  conflict : Option StateConflictSnapshot
  deriving DecidableEq

/-- `IntakeSubmission`. -/
structure IntakeSubmission where
  inquiryId : String
  inquiryCode : String
  guidanceScenario : String
  statusCode : String
  stateVersion : Int
  allowedActions : List String
  idempotentReplay : Bool
  deriving DecidableEq

section
variable (uppercase : String → String)

/-- `isRetrySubmitAction`. -/
def isRetrySubmitAction (code : String) : Bool := uppercase (trim code) == "SUBMIT_SYMPTOM"

/-- `retryableDraftConflict`, with the version it names. -/
def retryableDraftConflict (f : Failure) : Option (StateConflictSnapshot × Int) :=
  (f.conflict.filter fun c =>
    c.currentStatus == some "DRAFT" && c.allowedActions.any (isRetrySubmitAction uppercase)).bind
      fun c => c.currentStateVersion.map fun version => (c, version)

/-- `invalidatesPendingInquiry`. -/
def invalidatesPendingInquiry (f : Failure) : Bool :=
  let currentStatus := (f.conflict.bind (·.currentStatus)).map fun status => uppercase (trim status)
  f.httpStatus == some 404 || f.httpStatus == some 410 || currentStatus == some "CANCELLED" ||
    currentStatus == some "RESOLVED"

/-- The failure of a submission after which its pending operation is given up. -/
def closes (f : Failure) : Bool :=
  (retryableDraftConflict uppercase f).isNone && invalidatesPendingInquiry uppercase f

end

/-! ### The repository and the Backend -/

/-- `PendingIntakeOperation`. The request that opened it and what the Backend has said to its
messages are recorded for the statements below. -/
structure PendingIntakeOperation where
  createIdempotencyKey : Nat
  submitIdempotencyKey : Nat
  createdInquiry : Option InquiryResponse
  content : IntakeContent
  body : CreateInquiryRequest
  refused : Bool

/-- A request to create an inquiry, with the answer of the Backend once it has got it. -/
structure CreateMessage where
  operation : Nat
  idempotencyKey : Nat
  body : CreateInquiryRequest
  answer : Option (Except Failure InquiryResponse)

/-- A request to submit the symptoms of an inquiry. -/
structure SubmitMessage where
  operation : Nat
  idempotencyKey : Nat
  inquiryId : String
  stateVersion : Int
  answer : Option (Except Failure SubmitSymptomResponse)

/-- Where a call of `submitIntake` stands. -/
inductive Phase
  | creating (message : Nat)
  | submitting (message : Nat) (inquiry : InquiryResponse)
  | returned (result : Except Failure IntakeSubmission)
  | cancelled

structure Call where
  request : SymptomIntakeRequest
  operation : Nat
  phase : Phase

/-- The request and the response that the Backend keeps for a key. -/
structure Creation where
  body : CreateInquiryRequest
  inquiry : InquiryResponse

structure Submission where
  inquiryId : String
  stateVersion : Int
  response : SubmitSymptomResponse

structure State where
  operations : List PendingIntakeOperation
  pending : String → Option Nat
  calls : List Call
  creates : List CreateMessage
  submits : List SubmitMessage
  /-- The random keys drawn so far; each is a number of its own. -/
  draws : Nat
  creations : Nat → Option Creation
  submissions : Nat → Option Submission
  inquiries : List String
  /-- The inquiries whose submission the Backend has answered with a closing failure. -/
  gone : List String
  /-- The creations and submissions committed for a content since a call for it last returned a
  success or a closing failure. -/
  created : IntakeContent → Nat
  submitted : IntakeContent → Nat

def initial : State where
  operations := []
  pending _ := none
  calls := []
  creates := []
  submits := []
  draws := 0
  creations _ := none
  submissions _ := none
  inquiries := []
  gone := []
  created _ := 0
  submitted _ := 0

/-! ### The parts of a step -/

namespace State
variable (s : State)

/-- A new operation for the request, under its fingerprint. -/
def openOperation (r : SymptomIntakeRequest) : State :=
  { s with
    operations := s.operations ++ [⟨s.draws, s.draws + 1, none, r.content, r.createBody, false⟩]
    pending := Function.update s.pending r.fingerprint (some s.operations.length)
    draws := s.draws + 2 }

def sendCreate (o : Nat) (op : PendingIntakeOperation) (body : CreateInquiryRequest) : State :=
  { s with creates := s.creates ++ [⟨o, op.createIdempotencyKey, body, none⟩] }

def sendSubmit (o : Nat) (op : PendingIntakeOperation) (inquiry : InquiryResponse) : State :=
  { s with submits := s.submits ++
      [⟨o, op.submitIdempotencyKey, inquiry.inquiryId, inquiry.stateVersion, none⟩] }

def addCall (c : Call) : State := { s with calls := s.calls ++ [c] }

def setPhase (i : Nat) (c : Call) (phase : Phase) : State :=
  { s with calls := s.calls.set i { c with phase := phase } }

def setOperation (o : Nat) (op : PendingIntakeOperation) : State :=
  { s with operations := s.operations.set o op }

/-- A call for the content has returned a success or a closing failure. -/
def reset (c : IntakeContent) : State :=
  { s with created := Function.update s.created c 0, submitted := Function.update s.submitted c 0 }

/-- `pendingOperations.remove`, if the operation is the one remembered. -/
def remove (fingerprint : String) (o : Nat) : State :=
  if s.pending fingerprint = some o then
    { s with pending := Function.update s.pending fingerprint none }
  else s

def answerCreate (m : Nat) (message : CreateMessage)
    (answer : Except Failure InquiryResponse) : State :=
  { s with creates := s.creates.set m { message with answer := some answer } }

def answerSubmit (m : Nat) (message : SubmitMessage)
    (answer : Except Failure SubmitSymptomResponse) : State :=
  { s with submits := s.submits.set m { message with answer := some answer } }

/-- The Backend has refused a message of the operation. -/
def refuse (o : Nat) : State :=
  match s.operations[o]? with
  | none => s
  | some op => s.setOperation o { op with refused := true }

def contentOf (o : Nat) : Option IntakeContent := s.operations[o]?.map (·.content)

/-- An inquiry is created under a key. -/
def commitCreation (content : IntakeContent) (key : Nat) (record : Creation) : State :=
  { s with
    creations := Function.update s.creations key (some record)
    inquiries := record.inquiry.inquiryId :: s.inquiries
    created := Function.update s.created content (s.created content + 1) }

/-- The symptoms of an inquiry are submitted under a key. -/
def commitSubmission (content : IntakeContent) (key : Nat) (record : Submission) : State :=
  { s with
    submissions := Function.update s.submissions key (some record)
    submitted := Function.update s.submitted content (s.submitted content + 1) }

/-! ### The Backend -/

/-- The answer to a request to create an inquiry: the stored one to a repeated key and body, a
refusal to a repeated key with another body, and what the Backend decides otherwise. -/
def serveCreate (m : Nat) (message : CreateMessage) (decision : Except Failure InquiryResponse) :
    Option State :=
  match s.creations message.idempotencyKey, decision with
  | some record, decision =>
      if record.body = message.body then
        some (s.answerCreate m message (.ok { record.inquiry with idempotentReplay := true }))
      else
        match decision with
        | .ok _ => none
        | .error f => some ((s.refuse message.operation).answerCreate m message (.error f))
  | none, .ok inquiry =>
      if inquiry.inquiryId ∈ s.inquiries then none
      else
        (s.contentOf message.operation).map fun content =>
          (s.commitCreation content message.idempotencyKey ⟨message.body, inquiry⟩).answerCreate m
            message (.ok inquiry)
  | none, .error f => some ((s.refuse message.operation).answerCreate m message (.error f))

/-- A refusal of a submission; one that closes its operation says that the inquiry is gone. -/
def refuseSubmit (uppercase : String → String) (m : Nat) (message : SubmitMessage) (f : Failure) :
    State :=
  let t := (s.refuse message.operation).answerSubmit m message (.error f)
  if closes uppercase f then { t with gone := message.inquiryId :: t.gone } else t

def serveSubmit (uppercase : String → String) (m : Nat) (message : SubmitMessage)
    (decision : Except Failure SubmitSymptomResponse) : Option State :=
  match s.submissions message.idempotencyKey, decision with
  | some record, decision =>
      if record.inquiryId = message.inquiryId ∧ record.stateVersion = message.stateVersion then
        some (s.answerSubmit m message (.ok { record.response with idempotentReplay := true }))
      else
        match decision with
        | .ok _ => none
        | .error f => some (s.refuseSubmit uppercase m message f)
  | none, .ok response =>
      if response.inquiryId = message.inquiryId then
        (s.contentOf message.operation).map fun content =>
          (s.commitSubmission content message.idempotencyKey
            ⟨message.inquiryId, message.stateVersion, response⟩).answerSubmit m message (.ok response)
      else none
  | none, .error f => some (s.refuseSubmit uppercase m message f)

/-! ### `submitIntake` -/

/-- `getOrPut`. -/
def getOrPut (r : SymptomIntakeRequest) : State × Nat :=
  match s.pending r.fingerprint with
  | some o => (s, o)
  | none => (s.openOperation r, s.operations.length)

/-- A call starts: it asks for the inquiry unless its operation has one. -/
def start (r : SymptomIntakeRequest) : Option State :=
  let (t, o) := s.getOrPut r
  t.operations[o]?.map fun op =>
    match op.createdInquiry with
    | none => (t.sendCreate o op r.createBody).addCall ⟨r, o, .creating t.creates.length⟩
    | some inquiry =>
        (t.sendSubmit o op inquiry).addCall ⟨r, o, .submitting t.submits.length inquiry⟩

/-- The result of `inquiryRepository.create`. -/
def onCreate (i : Nat) (c : Call) : Except Failure InquiryResponse → Option State
  | .error f => some (s.setPhase i c (.returned (.error f)))
  | .ok inquiry =>
      s.operations[c.operation]?.map fun op =>
        ((s.setOperation c.operation { op with createdInquiry := some inquiry }).sendSubmit
          c.operation op inquiry).setPhase i c (.submitting s.submits.length inquiry)

/-- The remembered inquiry after a retryable conflict, if the operation is the one remembered. -/
def patch (fingerprint : String) (o : Nat) (inquiry : InquiryResponse)
    (conflict : StateConflictSnapshot) (version : Int) : State :=
  match s.operations[o]? with
  | none => s
  | some op =>
      if s.pending fingerprint = some o then
        s.setOperation o { op with
          createdInquiry := some { inquiry with
            statusCode := conflict.currentStatus.getD inquiry.statusCode
            stateVersion := version
            allowedActions := conflict.allowedActions } }
      else s

/-- The result of `inquiryRepository.submit`. -/
def onSubmit (uppercase : String → String) (i : Nat) (c : Call) (inquiry : InquiryResponse) :
    Except Failure SubmitSymptomResponse → State
  | .error f =>
      match retryableDraftConflict uppercase f with
      | some (conflict, version) =>
          (s.patch c.request.fingerprint c.operation inquiry conflict version).setPhase i c
            (.returned (.error f))
      | none =>
          if invalidatesPendingInquiry uppercase f then
            ((s.remove c.request.fingerprint c.operation).reset c.request.content).setPhase i c
              (.returned (.error f))
          else s.setPhase i c (.returned (.error f))
  | .ok response =>
      ((s.remove c.request.fingerprint c.operation).reset c.request.content).setPhase i c
        (.returned (.ok
          { inquiryId := response.inquiryId
            inquiryCode := inquiry.inquiryCode
            guidanceScenario := "BACKEND_PROCESSING"
            statusCode := response.state
            stateVersion := response.stateVersion
            allowedActions := response.allowedActions
            idempotentReplay := response.idempotentReplay }))

end State

/-! ### Steps -/

inductive Action
  | start (request : SymptomIntakeRequest)
  /-- The Backend gets a request; its decision counts when the key is new or the body another. -/
  | serveCreate (message : Nat) (decision : Except Failure InquiryResponse)
  | serveSubmit (message : Nat) (decision : Except Failure SubmitSymptomResponse)
  /-- A call gets the answer to its request. -/
  | receive (call : Nat)
  /-- A call gives its request up as lost. -/
  | lose (call : Nat) (failure : Failure)
  | cancel (call : Nat)

namespace State
variable (s : State) (uppercase : String → String)

def perform : Action → Option State
  | .start r => s.start r
  | .serveCreate m decision =>
      s.creates[m]?.bind fun message =>
        if message.answer.isSome then none else s.serveCreate m message decision
  | .serveSubmit m decision =>
      s.submits[m]?.bind fun message =>
        if message.answer.isSome then none else s.serveSubmit uppercase m message decision
  | .receive i =>
      s.calls[i]?.bind fun c =>
        match c.phase with
        | .creating m => (s.creates[m]?.bind (·.answer)).bind fun answer => s.onCreate i c answer
        | .submitting m inquiry =>
            (s.submits[m]?.bind (·.answer)).map fun answer =>
              s.onSubmit uppercase i c inquiry answer
        | .returned _ | .cancelled => none
  | .lose i f =>
      if f.httpStatus = none ∧ f.conflict = none then
        s.calls[i]?.bind fun c =>
          match c.phase with
          | .creating _ => s.onCreate i c (.error f)
          | .submitting _ inquiry => some (s.onSubmit uppercase i c inquiry (.error f))
          | .returned _ | .cancelled => none
      else none
  | .cancel i =>
      s.calls[i]?.bind fun c =>
        match c.phase with
        | .creating _ | .submitting _ _ => some (s.setPhase i c .cancelled)
        | .returned _ | .cancelled => none

end State

def Step (uppercase : String → String) (s : State) (a : Action) (t : State) : Prop :=
  s.perform uppercase a = some t

/-! ### The property -/

/-- The submission of a call was committed under its key, and names its inquiry. -/
def Named (s : State) (op : PendingIntakeOperation) (submission : IntakeSubmission) : Prop :=
  (∃ record, s.submissions op.submitIdempotencyKey = some record ∧
    record.inquiryId = submission.inquiryId) ∧
  ∃ record, s.creations op.createIdempotencyKey = some record ∧
    record.inquiry.inquiryId = submission.inquiryId ∧
    record.inquiry.inquiryCode = submission.inquiryCode

structure IntakeIntegrity (s : State) : Prop where
  sameBody : ∀ m ∈ s.creates, ∀ m' ∈ s.creates, m.idempotencyKey = m'.idempotencyKey →
    m.body = m'.body
  sameContent : ∀ c ∈ s.calls, ∀ c' ∈ s.calls, c.operation = c'.operation →
    c.request.content = c'.request.content
  oneCreation : ∀ content, s.created content ≤ 1
  oneSubmission : ∀ content, s.submitted content ≤ 1
  named : ∀ c ∈ s.calls, ∀ submission, c.phase = .returned (.ok submission) →
    ∃ op, s.operations[c.operation]? = some op ∧ Named s op submission

/-- A call that finds a pending operation has the content of the request that opened it and, while
no inquiry is created, its body; the Backend submits nothing for an inquiry that it called gone. -/
def Orderly (s : State) : Action → Prop
  | .start r => ∀ o op, s.pending r.fingerprint = some o → s.operations[o]? = some op →
      op.content = r.content ∧ (op.createdInquiry = none → op.body = r.createBody)
  | .serveSubmit m (.ok _) => ∀ message, s.submits[m]? = some message →
      s.submissions message.idempotencyKey = none → message.inquiryId ∉ s.gone
  | _ => True

/-- The messages of a repeated call, all of them delivered and the new ones accepted. -/
def redo (s : State) (r : SymptomIntakeRequest) (inquiry : InquiryResponse)
    (response : SubmitSymptomResponse) : List Action :=
  let submit : List Action :=
    [.serveSubmit s.submits.length (.ok response), .receive s.calls.length]
  match ((s.pending r.fingerprint).bind fun o => s.operations[o]?).bind (·.createdInquiry) with
  | none =>
      .start r :: .serveCreate s.creates.length (.ok inquiry) :: .receive s.calls.length :: submit
  | some _ => .start r :: submit

/-- The Backend has refused no message of the operation that the request finds. -/
def OnlyLost (s : State) (r : SymptomIntakeRequest) : Prop :=
  ∀ o op, s.pending r.fingerprint = some o → s.operations[o]? = some op → op.refused = false

/-! ### The invariant -/

/-- The inquiry was created for the operation, with this version if nothing was refused. -/
def Knows (s : State) (op : PendingIntakeOperation) (inquiryId : String) (stateVersion : Int) :
    Prop :=
  ∃ record, s.creations op.createIdempotencyKey = some record ∧
    record.inquiry.inquiryId = inquiryId ∧
    (op.refused = false → record.inquiry.stateVersion = stateVersion)

/-- The same with the code of the inquiry. -/
def KnowsInquiry (s : State) (op : PendingIntakeOperation) (inquiry : InquiryResponse) : Prop :=
  ∃ record, s.creations op.createIdempotencyKey = some record ∧
    record.inquiry.inquiryId = inquiry.inquiryId ∧
    record.inquiry.inquiryCode = inquiry.inquiryCode ∧
    (op.refused = false → record.inquiry.stateVersion = inquiry.stateVersion)

/-- What an object of the client says of its operation. -/
def OfOperation (s : State) (o : Nat) (P : PendingIntakeOperation → Prop) : Prop :=
  ∃ op, s.operations[o]? = some op ∧ P op

def CallInvariant (s : State) (_ : Nat) (c : Call) : Prop :=
  OfOperation s c.operation fun op =>
    op.content = c.request.content ∧
    match c.phase with
    | .creating m => ∃ message, s.creates[m]? = some message ∧ message.operation = c.operation
    | .submitting m inquiry => KnowsInquiry s op inquiry ∧ ∃ message, s.submits[m]? = some message ∧
        message.operation = c.operation ∧ message.inquiryId = inquiry.inquiryId
    | .returned (.ok submission) => Named s op submission
    | .returned (.error _) | .cancelled => True

def CreateInvariant (s : State) (_ : Nat) (m : CreateMessage) : Prop :=
  OfOperation s m.operation fun op =>
    m.idempotencyKey = op.createIdempotencyKey ∧ m.body = op.body ∧
    (∀ inquiry, m.answer = some (.ok inquiry) → KnowsInquiry s op inquiry) ∧
    ∀ f, m.answer = some (.error f) → op.refused = true

def SubmitInvariant (uppercase : String → String) (s : State) (_ : Nat) (m : SubmitMessage) : Prop :=
  OfOperation s m.operation fun op =>
    m.idempotencyKey = op.submitIdempotencyKey ∧ Knows s op m.inquiryId m.stateVersion ∧
    (∀ response, m.answer = some (.ok response) → response.inquiryId = m.inquiryId ∧
      ∃ record, s.submissions op.submitIdempotencyKey = some record ∧
        record.inquiryId = m.inquiryId) ∧
    ∀ f, m.answer = some (.error f) →
      op.refused = true ∧ (closes uppercase f = true → m.inquiryId ∈ s.gone)

/-- What holds of an operation, wherever it is remembered. -/
structure OperationInvariant (s : State) (o : Nat) (op : PendingIntakeOperation) : Prop where
  createKey : op.createIdempotencyKey = 2 * o
  submitKey : op.submitIdempotencyKey = 2 * o + 1
  created : ∀ inquiry, op.createdInquiry = some inquiry → KnowsInquiry s op inquiry
  stored : ∀ record, s.creations op.createIdempotencyKey = some record → record.body = op.body
  submitted : ∀ record, s.submissions op.submitIdempotencyKey = some record →
    record.response.inquiryId = record.inquiryId ∧ Knows s op record.inquiryId record.stateVersion
  /-- Nothing more is committed for an operation that is no longer remembered. -/
  removed : s.pending op.content.fingerprint ≠ some o →
    ∃ record, s.creations op.createIdempotencyKey = some record ∧
      ((s.submissions op.submitIdempotencyKey).isSome = true ∨ record.inquiry.inquiryId ∈ s.gone)

/-- What was committed for a content since the last reset is that of the remembered operation. -/
def Counted (s : State) (count : IntakeContent → Nat) (committed : PendingIntakeOperation → Bool) :
    Prop :=
  ∀ content, count content ≤ 1 ∧ (count content ≠ 0 →
    ∃ o op, s.pending content.fingerprint = some o ∧ s.operations[o]? = some op ∧
      op.content = content ∧ committed op = true)

structure Invariant (uppercase : String → String) (s : State) : Prop where
  draws : s.draws = 2 * s.operations.length
  pending : ∀ fingerprint o, s.pending fingerprint = some o →
    OfOperation s o fun op => op.content.fingerprint = fingerprint
  unused : ∀ key, s.draws ≤ key → s.creations key = none ∧ s.submissions key = none
  operations : Each (OperationInvariant s) s.operations
  calls : Each (CallInvariant s) s.calls
  creates : Each (CreateInvariant s) s.creates
  submits : Each (SubmitInvariant uppercase s) s.submits
  created : Counted s s.created fun op => (s.creations op.createIdempotencyKey).isSome
  submitted : Counted s s.submitted fun op => (s.submissions op.submitIdempotencyKey).isSome

/-! ### What every part of a step keeps -/

/-- An operation keeps its keys and the request that opened it, and stays refused. -/
structure SameOperation (op op' : PendingIntakeOperation) : Prop where
  createKey : op'.createIdempotencyKey = op.createIdempotencyKey
  submitKey : op'.submitIdempotencyKey = op.submitIdempotencyKey
  content : op'.content = op.content
  body : op'.body = op.body
  refused : op'.refused = false → op.refused = false

/-- Nothing that was sent, stored or refused is forgotten. -/
structure Extends (s t : State) : Prop where
  operations : ∀ (o : Nat) op, s.operations[o]? = some op →
    ∃ op', t.operations[o]? = some op' ∧ SameOperation op op'
  creations : ∀ key record, s.creations key = some record → t.creations key = some record
  submissions : ∀ key record, s.submissions key = some record → t.submissions key = some record
  gone : s.gone ⊆ t.gone
  creates : ∀ (m : Nat) message, s.creates[m]? = some message →
    ∃ message', t.creates[m]? = some message' ∧ message'.operation = message.operation
  submits : ∀ (m : Nat) message, s.submits[m]? = some message →
    ∃ message', t.submits[m]? = some message' ∧ message'.operation = message.operation ∧
      message'.inquiryId = message.inquiryId

section
variable {uppercase : String → String} {s t : State} {o i m : Nat}
  {op op' : PendingIntakeOperation} {c : Call}

theorem SameOperation.refl : SameOperation op op := ⟨rfl, rfl, rfl, rfl, fun h => h⟩

theorem Extends.refl : Extends s s where
  operations _ op found := ⟨op, found, .refl⟩
  creations _ _ found := found
  submissions _ _ found := found
  gone _ mem := mem
  creates _ message found := ⟨message, found, rfl⟩
  submits _ message found := ⟨message, found, rfl, rfl⟩

theorem Knows.extend {inquiryId : String} {version : Int} (knows : Knows s op inquiryId version)
    (more : Extends s t) (same : SameOperation op op') : Knows t op' inquiryId version := by
  obtain ⟨record, found, named, versioned⟩ := knows
  refine ⟨record, ?_, named, fun accepted => versioned (same.refused accepted)⟩
  rw [same.createKey]
  exact more.creations _ _ found

theorem KnowsInquiry.extend {inquiry : InquiryResponse} (knows : KnowsInquiry s op inquiry)
    (more : Extends s t) (same : SameOperation op op') : KnowsInquiry t op' inquiry := by
  obtain ⟨record, found, named, coded, versioned⟩ := knows
  refine ⟨record, ?_, named, coded, fun accepted => versioned (same.refused accepted)⟩
  rw [same.createKey]
  exact more.creations _ _ found

theorem Named.extend {submission : IntakeSubmission} (named : Named s op submission)
    (more : Extends s t) (same : SameOperation op op') : Named t op' submission := by
  obtain ⟨⟨record, found, identified⟩, record', found', identified'⟩ := named
  refine ⟨⟨record, ?_, identified⟩, record', ?_, identified'⟩
  · rw [same.submitKey]
    exact more.submissions _ _ found
  · rw [same.createKey]
    exact more.creations _ _ found'

theorem OfOperation.extend {P Q : PendingIntakeOperation → Prop} (known : OfOperation s o P)
    (more : Extends s t) (keep : ∀ op op', SameOperation op op' → P op → Q op') :
    OfOperation t o Q := by
  have ⟨op, found, holds⟩ := known
  have ⟨op', found', same⟩ := more.operations o op found
  exact ⟨op', found', keep op op' same holds⟩

theorem CallInvariant.extend (h : CallInvariant s i c) (more : Extends s t) :
    CallInvariant t i c := by
  refine OfOperation.extend h more ?_
  intro op op' same ⟨content, holds⟩
  refine ⟨same.content.trans content, ?_⟩
  cases phase : c.phase with
  | creating m =>
      rw [phase] at holds
      have ⟨message, found, own⟩ := holds
      have ⟨message', found', own'⟩ := more.creates m message found
      exact ⟨message', found', own'.trans own⟩
  | submitting m inquiry =>
      rw [phase] at holds
      have ⟨knows, message, found, own, named⟩ := holds
      have ⟨message', found', own', named'⟩ := more.submits m message found
      exact ⟨knows.extend more same, message', found', own'.trans own, named'.trans named⟩
  | returned result =>
      cases result with
      | ok submission =>
          rw [phase] at holds
          exact holds.extend more same
      | error f => exact trivial
  | cancelled => exact trivial

theorem CreateInvariant.extend {message : CreateMessage} (h : CreateInvariant s m message)
    (more : Extends s t) : CreateInvariant t m message := by
  refine OfOperation.extend h more ?_
  intro op op' same ⟨key, body, accepted, refused⟩
  refine ⟨key.trans same.createKey.symm, body.trans same.body.symm,
    fun inquiry answer => (accepted inquiry answer).extend more same, fun f answer => ?_⟩
  by_contra open'
  rw [same.refused ((Bool.not_eq_true _).mp open')] at refused
  exact absurd (refused f answer) (by decide)

theorem SubmitInvariant.extend {message : SubmitMessage} (h : SubmitInvariant uppercase s m message)
    (more : Extends s t) : SubmitInvariant uppercase t m message := by
  refine OfOperation.extend h more ?_
  intro op op' same ⟨key, knows, accepted, refused⟩
  refine ⟨key.trans same.submitKey.symm, knows.extend more same, ?_, ?_⟩
  · intro response answer
    have ⟨identified, record, found, own⟩ := accepted response answer
    refine ⟨identified, record, ?_, own⟩
    rw [same.submitKey]
    exact more.submissions _ _ found
  · intro f answer
    refine ⟨?_, fun closing => more.gone ((refused f answer).2 closing)⟩
    by_contra open'
    have still := same.refused ((Bool.not_eq_true _).mp open')
    rw [(refused f answer).1] at still
    cases still

theorem OperationInvariant.extend (h : OperationInvariant s o op) (more : Extends s t)
    (creations : t.creations = s.creations) (submissions : t.submissions = s.submissions)
    (pending : t.pending op.content.fingerprint ≠ some o → s.pending op.content.fingerprint ≠ some o) :
    OperationInvariant t o op where
  createKey := h.createKey
  submitKey := h.submitKey
  created inquiry created := (h.created inquiry created).extend more .refl
  stored := by
    rw [creations]
    exact h.stored
  submitted := by
    rw [submissions]
    intro record found
    exact ⟨(h.submitted record found).1, (h.submitted record found).2.extend more .refl⟩
  removed := by
    intro forgotten
    obtain ⟨record, found, rest⟩ := h.removed (pending forgotten)
    refine ⟨record, ?_, ?_⟩
    · rw [creations]
      exact found
    · rw [submissions]
      exact rest.imp_right fun mem => more.gone mem

/-- Operations are told apart by their keys. -/
theorem OperationInvariant.eq_of_createKey {o' : Nat} (h : OperationInvariant s o op)
    (h' : OperationInvariant s o' op')
    (same : op.createIdempotencyKey = op'.createIdempotencyKey) : o = o' := by
  have := h.createKey
  have := h'.createKey
  omega

theorem OperationInvariant.eq_of_submitKey {o' : Nat} (h : OperationInvariant s o op)
    (h' : OperationInvariant s o' op')
    (same : op.submitIdempotencyKey = op'.submitIdempotencyKey) : o = o' := by
  have := h.submitKey
  have := h'.submitKey
  omega

/-! ### The parts of a step -/

/-- A part of a step that leaves the operations and the Backend as they are. -/
theorem Invariant.messages (h : Invariant uppercase s) {calls : List Call}
    {creates : List CreateMessage} {submits : List SubmitMessage}
    (more : Extends s { s with calls := calls, creates := creates, submits := submits })
    (calls' : Each (CallInvariant { s with calls := calls, creates := creates, submits := submits })
      calls)
    (creates' : Each
      (CreateInvariant { s with calls := calls, creates := creates, submits := submits }) creates)
    (submits' : Each (SubmitInvariant uppercase
      { s with calls := calls, creates := creates, submits := submits }) submits) :
    Invariant uppercase { s with calls := calls, creates := creates, submits := submits } where
  draws := h.draws
  pending := h.pending
  unused := h.unused
  operations _ _ found := (h.operations _ _ found).extend more rfl rfl fun other => other
  calls := calls'
  creates := creates'
  submits := submits'
  created := h.created
  submitted := h.submitted

theorem Invariant.addCall (h : Invariant uppercase s) (own : CallInvariant s s.calls.length c) :
    Invariant uppercase (s.addCall c) := by
  have more : Extends s (s.addCall c) := { Extends.refl with }
  exact h.messages more (h.calls.spawn (own.extend more) fun _ _ other => other.extend more)
    (h.creates.mono fun _ _ other => other.extend more)
    (h.submits.mono fun _ _ other => other.extend more)

theorem Invariant.setPhase (h : Invariant uppercase s) {phase : Phase}
    (own : CallInvariant s i { c with phase := phase }) :
    Invariant uppercase (s.setPhase i c phase) := by
  have more : Extends s (s.setPhase i c phase) := { Extends.refl with }
  exact h.messages more (h.calls.set (own.extend more) fun _ _ _ other => other.extend more)
    (h.creates.mono fun _ _ other => other.extend more)
    (h.submits.mono fun _ _ other => other.extend more)

theorem Invariant.sendCreate (h : Invariant uppercase s) (found : s.operations[o]? = some op) :
    Invariant uppercase (s.sendCreate o op op.body) := by
  have more : Extends s (s.sendCreate o op op.body) :=
    { Extends.refl with creates := fun _ message there => ⟨message, spawn_old there, rfl⟩ }
  refine h.messages more (h.calls.mono fun _ _ other => other.extend more)
    (h.creates.spawn ?_ fun _ _ other => other.extend more)
    (h.submits.mono fun _ _ other => other.extend more)
  exact ⟨op, found, rfl, rfl, (fun _ answered => by cases answered),
    fun _ answered => by cases answered⟩

theorem Invariant.sendSubmit (h : Invariant uppercase s) (found : s.operations[o]? = some op)
    {inquiry : InquiryResponse} (knows : KnowsInquiry s op inquiry) :
    Invariant uppercase (s.sendSubmit o op inquiry) := by
  have more : Extends s (s.sendSubmit o op inquiry) :=
    { Extends.refl with submits := fun _ message there => ⟨message, spawn_old there, rfl, rfl⟩ }
  refine h.messages more (h.calls.mono fun _ _ other => other.extend more)
    (h.creates.mono fun _ _ other => other.extend more)
    (h.submits.spawn ?_ fun _ _ other => other.extend more)
  obtain ⟨record, stored, named, _, versioned⟩ := knows
  exact ⟨op, found, rfl, ⟨record, stored, named, versioned⟩, (fun _ answered => by cases answered),
    fun _ answered => by cases answered⟩

theorem Invariant.answerCreate (h : Invariant uppercase s) {message : CreateMessage}
    {answer : Except Failure InquiryResponse} (found : s.creates[m]? = some message)
    (own : CreateInvariant s m { message with answer := some answer }) :
    Invariant uppercase (s.answerCreate m message answer) := by
  have more : Extends s (s.answerCreate m message answer) := by
    refine { Extends.refl with creates := fun j other there => ?_ }
    by_cases same : j = m
    · subst same
      rw [found] at there
      cases there
      exact ⟨_, set_self found, rfl⟩
    · exact ⟨other, (set_other same).trans there, rfl⟩
  exact h.messages more (h.calls.mono fun _ _ other => other.extend more)
    (h.creates.set (own.extend more) fun _ _ _ other => other.extend more)
    (h.submits.mono fun _ _ other => other.extend more)

theorem Invariant.answerSubmit (h : Invariant uppercase s) {message : SubmitMessage}
    {answer : Except Failure SubmitSymptomResponse} (found : s.submits[m]? = some message)
    (own : SubmitInvariant uppercase s m { message with answer := some answer }) :
    Invariant uppercase (s.answerSubmit m message answer) := by
  have more : Extends s (s.answerSubmit m message answer) := by
    refine { Extends.refl with submits := fun j other there => ?_ }
    by_cases same : j = m
    · subst same
      rw [found] at there
      cases there
      exact ⟨_, set_self found, rfl, rfl⟩
    · exact ⟨other, (set_other same).trans there, rfl, rfl⟩
  exact h.messages more (h.calls.mono fun _ _ other => other.extend more)
    (h.creates.mono fun _ _ other => other.extend more)
    (h.submits.set (own.extend more) fun _ _ _ other => other.extend more)

theorem extends_setOperation (found : s.operations[o]? = some op) (same : SameOperation op op') :
    Extends s (s.setOperation o op') := by
  refine { Extends.refl with operations := fun j other there => ?_ }
  by_cases own : j = o
  · subst own
    rw [found] at there
    cases there
    exact ⟨op', set_self found, same⟩
  · exact ⟨other, (set_other own).trans there, .refl⟩

/-- A count is kept when its operation is replaced by the same one. -/
theorem Counted.extend {count : IntakeContent → Nat} {committed : PendingIntakeOperation → Bool}
    {committed' : PendingIntakeOperation → Bool} (h : Counted s count committed)
    (more : Extends s t) (pending : t.pending = s.pending)
    (keep : ∀ op op', SameOperation op op' → committed op = true → committed' op' = true) :
    Counted t count committed' := by
  intro content
  refine ⟨(h content).1, fun some => ?_⟩
  obtain ⟨o, op, remembered, found, own, held⟩ := (h content).2 some
  obtain ⟨op', found', same⟩ := more.operations o op found
  refine ⟨o, op', ?_, found', same.content.trans own, keep op op' same held⟩
  rw [pending]
  exact remembered

theorem Invariant.setOperation (h : Invariant uppercase s) (found : s.operations[o]? = some op)
    (same : SameOperation op op')
    (created : ∀ inquiry, op'.createdInquiry = some inquiry → KnowsInquiry s op' inquiry) :
    Invariant uppercase (s.setOperation o op') := by
  have more := extends_setOperation found same
  have old := h.operations o op found
  refine ⟨?_, ?_, h.unused, ?_, h.calls.mono fun _ _ other => other.extend more,
    h.creates.mono fun _ _ other => other.extend more,
    h.submits.mono fun _ _ other => other.extend more, h.created.extend more rfl ?_,
    h.submitted.extend more rfl ?_⟩
  · have length : (s.operations.set o op').length = s.operations.length := List.length_set
    exact h.draws.trans (congrArg (2 * ·) length.symm)
  · intro fingerprint j remembered
    refine OfOperation.extend (h.pending fingerprint j remembered) more ?_
    intro _ _ same' content
    rw [same'.content]
    exact content
  · refine h.operations.set ?_ fun j other _ invariant =>
      invariant.extend more rfl rfl fun forgotten => forgotten
    refine ⟨same.createKey.trans old.createKey, same.submitKey.trans old.submitKey, ?_, ?_, ?_, ?_⟩
    · intro inquiry known
      exact (created inquiry known).extend more .refl
    · rw [same.createKey, same.body]
      exact old.stored
    · rw [same.submitKey]
      intro record stored
      exact ⟨(old.submitted record stored).1, (old.submitted record stored).2.extend more same⟩
    · rw [same.createKey, same.submitKey, same.content]
      exact old.removed
  · intro _ _ same' committed
    rw [same'.createKey]
    exact committed
  · intro _ _ same' committed
    rw [same'.submitKey]
    exact committed

theorem sameOperation_refused : SameOperation op { op with refused := true } :=
  ⟨rfl, rfl, rfl, rfl, fun h => by cases h⟩

theorem Invariant.refuse (h : Invariant uppercase s) (o : Nat) :
    Invariant uppercase (s.refuse o) := by
  unfold State.refuse
  cases found : s.operations[o]? with
  | none => exact h
  | some op =>
      refine h.setOperation found sameOperation_refused ?_
      intro inquiry created
      exact ((h.operations o op found).created inquiry created).extend .refl sameOperation_refused

theorem refuse_refused (found : s.operations[o]? = some op) :
    (s.refuse o).operations[o]? = some { op with refused := true } := by
  unfold State.refuse
  rw [found]
  exact set_self found

/-- A new operation is remembered under the fingerprint of its request. -/
theorem Invariant.openOperation (h : Invariant uppercase s) {r : SymptomIntakeRequest}
    (free : s.pending r.fingerprint = none) : Invariant uppercase (s.openOperation r) := by
  have more : Extends s (s.openOperation r) :=
    { Extends.refl with operations := fun _ op there => ⟨op, spawn_old there, .refl⟩ }
  have kept : ∀ fingerprint (j : Nat), s.pending fingerprint = some j →
      (s.openOperation r).pending fingerprint = some j := by
    intro fingerprint j remembered
    have other : fingerprint ≠ r.fingerprint := by
      intro same
      rw [same, free] at remembered
      cases remembered
    exact (Function.update_of_ne other _ _).trans remembered
  have counted {count : IntakeContent → Nat} {committed : PendingIntakeOperation → Bool}
      (old : Counted s count committed) : Counted (s.openOperation r) count committed := by
    intro content
    refine ⟨(old content).1, fun some => ?_⟩
    obtain ⟨j, op, remembered, found, rest⟩ := (old content).2 some
    exact ⟨j, op, kept _ j remembered, spawn_old found, rest⟩
  refine ⟨?_, ?_, ?_, ?_, h.calls.mono fun _ _ other => other.extend more,
    h.creates.mono fun _ _ other => other.extend more,
    h.submits.mono fun _ _ other => other.extend more, counted h.created, counted h.submitted⟩
  · have draws := h.draws
    simp only [State.openOperation, List.length_append, List.length_singleton]
    omega
  · intro fingerprint j remembered
    by_cases own : fingerprint = r.fingerprint
    · subst own
      have last : (s.openOperation r).pending r.fingerprint = some s.operations.length :=
        Function.update_self _ _ _
      cases last.symm.trans remembered
      exact ⟨_, List.getElem?_concat_length, rfl⟩
    · have old : s.pending fingerprint = some j :=
        (Function.update_of_ne own _ _).symm.trans remembered
      exact OfOperation.extend (h.pending fingerprint j old) more fun _ _ same content => by
        rw [same.content]
        exact content
  · intro key large
    refine h.unused key (le_trans ?_ large)
    exact Nat.le_add_right _ _
  · have empty := h.unused
    refine h.operations.spawn ⟨h.draws, congrArg (· + 1) h.draws, (fun _ none => by cases none), ?_, ?_,
      ?_⟩ ?_
    · intro record stored
      have unused := (empty s.draws le_rfl).1
      exact absurd (unused.symm.trans stored) (by simp)
    · intro record stored
      have unused := (empty (s.draws + 1) (Nat.le_succ _)).2
      exact absurd (unused.symm.trans stored) (by simp)
    · intro forgotten
      exact absurd (Function.update_self _ _ _) forgotten
    · intro j op invariant
      exact invariant.extend more rfl rfl fun forgotten remembered =>
        forgotten (kept _ j remembered)

/-- An operation with something left to commit is the one remembered for its content. -/
theorem Invariant.remembered_of_new (h : Invariant uppercase s) (found : s.operations[o]? = some op)
    (new : s.creations op.createIdempotencyKey = none) :
    s.pending op.content.fingerprint = some o := by
  by_contra forgotten
  obtain ⟨record, stored, _⟩ := (h.operations o op found).removed forgotten
  rw [new] at stored
  cases stored

theorem Invariant.remembered_of_open (h : Invariant uppercase s) (found : s.operations[o]? = some op)
    (new : s.submissions op.submitIdempotencyKey = none) {inquiryId : String} {version : Int}
    (knows : Knows s op inquiryId version) (present : inquiryId ∉ s.gone) :
    s.pending op.content.fingerprint = some o := by
  by_contra forgotten
  obtain ⟨record, stored, rest⟩ := (h.operations o op found).removed forgotten
  obtain ⟨record', stored', named, _⟩ := knows
  rw [stored] at stored'
  cases stored'
  rcases rest with submitted | gone
  · rw [new] at submitted
    cases submitted
  · exact present (named ▸ gone)

/-- The first commit of the remembered operation is the first for its content. -/
theorem Counted.commit {count : IntakeContent → Nat} {committed committed' : PendingIntakeOperation → Bool}
    (h : Counted s count committed) (operations : t.operations = s.operations)
    (pending : t.pending = s.pending) (found : s.operations[o]? = some op)
    (remembered : s.pending op.content.fingerprint = some o) (new : committed op = false)
    (done : committed' op = true)
    (keep : ∀ op, committed op = true → committed' op = true) :
    Counted t (Function.update count op.content (count op.content + 1)) committed' := by
  have zero : count op.content = 0 := by
    by_contra some
    obtain ⟨o', op', remembered', found', _, held⟩ := (h op.content).2 some
    rw [remembered] at remembered'
    cases remembered'
    rw [found] at found'
    cases found'
    rw [new] at held
    cases held
  intro content
  rw [pending, operations]
  by_cases own : content = op.content
  · subst own
    rw [Function.update_self, zero]
    exact ⟨le_rfl, fun _ => ⟨o, op, remembered, found, rfl, done⟩⟩
  · rw [Function.update_of_ne own]
    refine ⟨(h content).1, fun some => ?_⟩
    obtain ⟨o', op', remembered', found', same, held⟩ := (h content).2 some
    exact ⟨o', op', remembered', found', same, keep op' held⟩

theorem update_of_none {α : Type} {f : Nat → Option α} {key : Nat} {value : α} (new : f key = none) :
    ∀ k x, f k = some x → Function.update f key (some value) k = some x := by
  intro k x found
  have other : k ≠ key := by
    intro same
    rw [same, new] at found
    cases found
  exact (Function.update_of_ne other _ _).trans found

theorem isSome_update {α : Type} {f : Nat → Option α} {key : Nat} {value : α} {k : Nat}
    (filled : (f k).isSome = true) : (Function.update f key (some value) k).isSome = true := by
  by_cases same : k = key
  · subst same
    rw [Function.update_self]
    rfl
  · rwa [Function.update_of_ne same]

theorem Invariant.commitCreation (h : Invariant uppercase s) (found : s.operations[o]? = some op)
    (new : s.creations op.createIdempotencyKey = none) {record : Creation}
    (body : record.body = op.body) :
    Invariant uppercase (s.commitCreation op.content op.createIdempotencyKey record) := by
  have more : Extends s (s.commitCreation op.content op.createIdempotencyKey record) :=
    { Extends.refl with creations := update_of_none new }
  have own := h.operations o op found
  have remembered := h.remembered_of_new found new
  refine ⟨h.draws, h.pending, ?_, ?_, h.calls.mono fun _ _ other => other.extend more,
    h.creates.mono fun _ _ other => other.extend more,
    h.submits.mono fun _ _ other => other.extend more,
    h.created.commit rfl rfl found remembered (by rw [new]; rfl) ?_ ?_,
    h.submitted.extend more rfl ?_⟩
  · intro key large
    have inside : o < s.operations.length := (List.getElem?_eq_some_iff.1 found).1
    have draws := h.draws
    have number := own.createKey
    have large' : s.draws ≤ key := large
    have other : key ≠ op.createIdempotencyKey := by omega
    exact ⟨(Function.update_of_ne other _ _).trans (h.unused key large').1, (h.unused key large').2⟩
  · intro j other there
    have invariant := h.operations j other there
    refine ⟨invariant.createKey, invariant.submitKey,
      fun inquiry known => (invariant.created inquiry known).extend more .refl, ?_, ?_, ?_⟩
    · intro record' stored
      by_cases same : other.createIdempotencyKey = op.createIdempotencyKey
      · obtain rfl := invariant.eq_of_createKey own same
        cases found.symm.trans there
        have last : (s.commitCreation op.content op.createIdempotencyKey record).creations
            op.createIdempotencyKey = some record := Function.update_self _ _ _
        cases last.symm.trans stored
        exact body
      · exact invariant.stored record' ((Function.update_of_ne same _ _).symm.trans stored)
    · intro record' stored
      exact ⟨(invariant.submitted record' stored).1,
        (invariant.submitted record' stored).2.extend more .refl⟩
    · intro forgotten
      obtain ⟨record', stored, rest⟩ := invariant.removed forgotten
      exact ⟨record', more.creations _ _ stored, rest⟩
  · change (Function.update s.creations _ _ _).isSome = true
    rw [Function.update_self]
    rfl
  · exact fun _ filled => isSome_update filled
  · intro _ _ same committed
    rw [same.submitKey]
    exact committed

theorem Invariant.commitSubmission (h : Invariant uppercase s) (found : s.operations[o]? = some op)
    (new : s.submissions op.submitIdempotencyKey = none) {record : Submission}
    (response : record.response.inquiryId = record.inquiryId)
    (knows : Knows s op record.inquiryId record.stateVersion)
    (present : record.inquiryId ∉ s.gone) :
    Invariant uppercase (s.commitSubmission op.content op.submitIdempotencyKey record) := by
  have more : Extends s (s.commitSubmission op.content op.submitIdempotencyKey record) :=
    { Extends.refl with submissions := update_of_none new }
  have own := h.operations o op found
  have remembered := h.remembered_of_open found new knows present
  refine ⟨h.draws, h.pending, ?_, ?_, h.calls.mono fun _ _ other => other.extend more,
    h.creates.mono fun _ _ other => other.extend more,
    h.submits.mono fun _ _ other => other.extend more, h.created.extend more rfl ?_,
    h.submitted.commit rfl rfl found remembered (by rw [new]; rfl) ?_ ?_⟩
  · intro key large
    have inside : o < s.operations.length := (List.getElem?_eq_some_iff.1 found).1
    have draws := h.draws
    have number := own.submitKey
    have large' : s.draws ≤ key := large
    have other : key ≠ op.submitIdempotencyKey := by omega
    exact ⟨(h.unused key large').1, (Function.update_of_ne other _ _).trans (h.unused key large').2⟩
  · intro j other there
    have invariant := h.operations j other there
    refine ⟨invariant.createKey, invariant.submitKey,
      fun inquiry known => (invariant.created inquiry known).extend more .refl, invariant.stored, ?_,
      ?_⟩
    · intro record' stored
      by_cases same : other.submitIdempotencyKey = op.submitIdempotencyKey
      · obtain rfl := invariant.eq_of_submitKey own same
        cases found.symm.trans there
        have last : (s.commitSubmission op.content op.submitIdempotencyKey record).submissions
            op.submitIdempotencyKey = some record := Function.update_self _ _ _
        cases last.symm.trans stored
        exact ⟨response, knows.extend more .refl⟩
      · have old := invariant.submitted record' ((Function.update_of_ne same _ _).symm.trans stored)
        exact ⟨old.1, old.2.extend more .refl⟩
    · intro forgotten
      obtain ⟨record', stored, rest⟩ := invariant.removed forgotten
      exact ⟨record', stored, rest.imp_left fun filled => isSome_update filled⟩
  · intro _ _ same committed
    rw [same.createKey]
    exact committed
  · change (Function.update s.submissions _ _ _).isSome = true
    rw [Function.update_self]
    rfl
  · exact fun _ filled => isSome_update filled

/-- The Backend says that an inquiry is gone. -/
theorem Invariant.addGone (h : Invariant uppercase s) (inquiryId : String) :
    Invariant uppercase { s with gone := inquiryId :: s.gone } := by
  have more : Extends s { s with gone := inquiryId :: s.gone } :=
    { Extends.refl with gone := fun _ mem => List.mem_cons_of_mem _ mem }
  exact ⟨h.draws, h.pending, h.unused,
    h.operations.mono fun _ _ other => other.extend more rfl rfl fun forgotten => forgotten,
    h.calls.mono fun _ _ other => other.extend more, h.creates.mono fun _ _ other => other.extend more,
    h.submits.mono fun _ _ other => other.extend more, h.created, h.submitted⟩

/-- A call for a content returns: its operation is forgotten when there is nothing left to commit
for it, and the counts of the content start anew. -/
theorem Invariant.close (h : Invariant uppercase s) (found : s.operations[o]? = some op)
    (finished : ∃ record, s.creations op.createIdempotencyKey = some record ∧
      ((s.submissions op.submitIdempotencyKey).isSome = true ∨ record.inquiry.inquiryId ∈ s.gone)) :
    Invariant uppercase ((s.remove op.content.fingerprint o).reset op.content) := by
  have counted {count : IntakeContent → Nat} {committed : PendingIntakeOperation → Bool}
      (old : Counted s count committed) {t : State} (operations : t.operations = s.operations)
      (kept : ∀ content (j : Nat) other, s.pending content.fingerprint = some j →
        s.operations[j]? = some other → other.content = content → content ≠ op.content →
        t.pending content.fingerprint = some j) :
      Counted t (Function.update count op.content 0) committed := by
    intro content
    by_cases own : content = op.content
    · subst own
      rw [Function.update_self]
      exact ⟨Nat.zero_le _, fun some => absurd rfl some⟩
    · rw [Function.update_of_ne own]
      refine ⟨(old content).1, fun some => ?_⟩
      obtain ⟨j, other, remembered, there, same, held⟩ := (old content).2 some
      refine ⟨j, other, kept content j other remembered there same own, ?_, same, held⟩
      rw [operations]
      exact there
  by_cases remembered : s.pending op.content.fingerprint = some o
  · have removed : s.remove op.content.fingerprint o =
        { s with pending := Function.update s.pending op.content.fingerprint none } :=
      if_pos remembered
    have forgotten : Function.update s.pending op.content.fingerprint none op.content.fingerprint =
        none := Function.update_self _ _ _
    have others (fingerprint : String) (different : fingerprint ≠ op.content.fingerprint) :
        Function.update s.pending op.content.fingerprint none fingerprint =
          s.pending fingerprint := Function.update_of_ne different _ _
    rw [removed]
    generalize Function.update s.pending op.content.fingerprint none = pending at forgotten others
    have more : Extends s (State.reset { s with pending := pending } op.content) :=
      { Extends.refl with }
    have kept : ∀ content (j : Nat) other, s.pending content.fingerprint = some j →
        s.operations[j]? = some other → other.content = content → content ≠ op.content →
        pending content.fingerprint = some j := by
      intro content j other remembered' there same different
      rw [others _ ?_]
      · exact remembered'
      · intro equal
        rw [equal, remembered] at remembered'
        cases remembered'
        rw [found] at there
        cases there
        exact different same.symm
    refine ⟨h.draws, ?_, h.unused, ?_, h.calls.mono fun _ _ other => other.extend more,
      h.creates.mono fun _ _ other => other.extend more,
      h.submits.mono fun _ _ other => other.extend more, counted h.created rfl kept,
      counted h.submitted rfl kept⟩
    · intro fingerprint j there
      have other : fingerprint ≠ op.content.fingerprint := by
        intro equal
        have empty : pending fingerprint = some j := there
        rw [equal, forgotten] at empty
        cases empty
      exact h.pending fingerprint j ((others _ other).symm.trans there)
    · intro j other there
      have invariant := h.operations j other there
      by_cases own : j = o
      · subst own
        cases found.symm.trans there
        exact ⟨invariant.createKey, invariant.submitKey,
          fun inquiry known => (invariant.created inquiry known).extend more .refl,
          invariant.stored, invariant.submitted, fun _ => finished⟩
      · refine invariant.extend more rfl rfl fun lost remembered' => lost ?_
        refine (others _ ?_).trans remembered'
        intro equal
        rw [equal, remembered] at remembered'
        cases remembered'
        exact own rfl
  · have untouched : s.remove op.content.fingerprint o = s := if_neg remembered
    rw [untouched]
    have more : Extends s (s.reset op.content) := { Extends.refl with }
    exact ⟨h.draws, h.pending, h.unused,
      h.operations.mono fun _ _ other => other.extend more rfl rfl fun forgotten => forgotten,
      h.calls.mono fun _ _ other => other.extend more,
      h.creates.mono fun _ _ other => other.extend more,
      h.submits.mono fun _ _ other => other.extend more,
      counted h.created rfl fun _ _ _ there _ _ _ => there,
      counted h.submitted rfl fun _ _ _ there _ _ _ => there⟩

/-! ### One step -/

/-- A call joins the operation it has found or opened. -/
theorem Invariant.join (h : Invariant uppercase s) (found : s.operations[o]? = some op)
    {r : SymptomIntakeRequest} (content : op.content = r.content)
    (body : op.createdInquiry = none → op.body = r.createBody) :
    Invariant uppercase (match op.createdInquiry with
      | none => (s.sendCreate o op r.createBody).addCall ⟨r, o, .creating s.creates.length⟩
      | some inquiry =>
          (s.sendSubmit o op inquiry).addCall ⟨r, o, .submitting s.submits.length inquiry⟩) := by
  cases created : op.createdInquiry with
  | none =>
      simp only
      rw [← body created]
      exact (h.sendCreate found).addCall ⟨op, found, content,
        ⟨o, op.createIdempotencyKey, op.body, none⟩, List.getElem?_concat_length, rfl⟩
  | some inquiry =>
      have knows := (h.operations o op found).created inquiry created
      exact (h.sendSubmit found knows).addCall ⟨op, found, content, knows,
        ⟨o, op.submitIdempotencyKey, inquiry.inquiryId, inquiry.stateVersion, none⟩,
        List.getElem?_concat_length, rfl, rfl⟩

theorem Invariant.start (h : Invariant uppercase s) {r : SymptomIntakeRequest}
    (orderly : Orderly s (.start r)) (started : s.start r = some t) : Invariant uppercase t := by
  unfold State.start State.getOrPut at started
  cases pending : s.pending r.fingerprint with
  | some o =>
      rw [pending] at started
      obtain ⟨op, found, rfl⟩ := Option.map_eq_some_iff.1 started
      have ⟨content, body⟩ := orderly o op pending found
      exact h.join found content body
  | none =>
      rw [pending] at started
      obtain ⟨op, found, rfl⟩ := Option.map_eq_some_iff.1 started
      have last : (s.openOperation r).operations[s.operations.length]? =
          some ⟨s.draws, s.draws + 1, none, r.content, r.createBody, false⟩ :=
        List.getElem?_concat_length
      cases last.symm.trans found
      exact (h.openOperation pending).join last rfl fun _ => rfl

theorem Invariant.serveCreate (h : Invariant uppercase s) {message : CreateMessage}
    {decision : Except Failure InquiryResponse} (found : s.creates[m]? = some message)
    (served : s.serveCreate m message decision = some t) : Invariant uppercase t := by
  have known := h.creates m message found
  obtain ⟨op, there, key, body, _, _⟩ := known
  have refused {f : Failure} : Invariant uppercase
      ((s.refuse message.operation).answerCreate m message (.error f)) := by
    have found' : (s.refuse message.operation).creates[m]? = some message := by
      unfold State.refuse
      rw [there]
      exact found
    refine (h.refuse message.operation).answerCreate found' ?_
    exact ⟨_, refuse_refused there, key, body, (fun _ same => by cases same), fun _ _ => rfl⟩
  unfold State.serveCreate at served
  cases stored : s.creations message.idempotencyKey with
  | some record =>
      rw [stored] at served
      by_cases same : record.body = message.body
      · simp only [if_pos same] at served
        cases served
        refine h.answerCreate found ⟨op, there, key, body, ?_, fun _ same => by cases same⟩
        intro inquiry answer
        cases answer
        rw [key] at stored
        exact ⟨record, stored, rfl, rfl, fun _ => rfl⟩
      · simp only [if_neg same] at served
        cases decision with
        | ok inquiry => cases served
        | error f =>
            cases served
            exact refused
  | none =>
      rw [stored] at served
      cases decision with
      | error f =>
          cases served
          exact refused
      | ok inquiry =>
          simp only at served
          by_cases given : inquiry.inquiryId ∈ s.inquiries
          · rw [if_pos given] at served
            cases served
          · rw [if_neg given] at served
            obtain ⟨content, own, rfl⟩ := Option.map_eq_some_iff.1 served
            rw [State.contentOf, there] at own
            cases own
            rw [key] at stored ⊢
            refine (h.commitCreation there stored body).answerCreate found
              ⟨op, there, key, body, ?_, fun _ same => by cases same⟩
            intro inquiry' answer
            cases answer
            exact ⟨_, Function.update_self _ _ _, rfl, rfl, fun _ => rfl⟩

theorem Invariant.refuseSubmit (h : Invariant uppercase s) {message : SubmitMessage}
    (found : s.submits[m]? = some message) (f : Failure) :
    Invariant uppercase (s.refuseSubmit uppercase m message f) := by
  obtain ⟨op, there, key, knows, _, _⟩ := h.submits m message found
  have found' : (s.refuse message.operation).submits[m]? = some message := by
    unfold State.refuse
    rw [there]
    exact found
  have knows' : Knows (s.refuse message.operation) { op with refused := true } message.inquiryId
      message.stateVersion := by
    have more : Extends s (s.refuse message.operation) := by
      unfold State.refuse
      rw [there]
      exact extends_setOperation there sameOperation_refused
    exact knows.extend more sameOperation_refused
  unfold State.refuseSubmit
  by_cases closing : closes uppercase f = true
  · simp only [if_pos closing]
    have gone := (h.refuse message.operation).addGone message.inquiryId
    refine gone.answerSubmit found' ?_
    exact ⟨_, refuse_refused there, key, knows', (fun _ same => by cases same),
      fun _ _ => ⟨rfl, fun _ => List.mem_cons_self⟩⟩
  · simp only [if_neg closing]
    refine (h.refuse message.operation).answerSubmit found' ?_
    refine ⟨_, refuse_refused there, key, knows', (fun _ same => by cases same), ?_⟩
    intro f' same
    cases same
    exact ⟨rfl, fun closing' => absurd closing' closing⟩

theorem Invariant.serveSubmit (h : Invariant uppercase s) {message : SubmitMessage}
    {decision : Except Failure SubmitSymptomResponse} (found : s.submits[m]? = some message)
    (orderly : Orderly s (.serveSubmit m decision))
    (served : s.serveSubmit uppercase m message decision = some t) : Invariant uppercase t := by
  have known := h.submits m message found
  obtain ⟨op, there, key, knows, _, _⟩ := known
  unfold State.serveSubmit at served
  cases stored : s.submissions message.idempotencyKey with
  | some record =>
      rw [stored] at served
      by_cases same : record.inquiryId = message.inquiryId ∧
          record.stateVersion = message.stateVersion
      · simp only [if_pos same] at served
        cases served
        rw [key] at stored
        refine h.answerSubmit found ⟨op, there, key, knows, ?_, fun _ same => by cases same⟩
        intro response answer
        cases answer
        exact ⟨((h.operations _ op there).submitted record stored).1.trans same.1, record, stored,
          same.1⟩
      · simp only [if_neg same] at served
        cases decision with
        | ok response => cases served
        | error f =>
            cases served
            exact h.refuseSubmit found f
  | none =>
      rw [stored] at served
      cases decision with
      | error f =>
          cases served
          exact h.refuseSubmit found f
      | ok response =>
          simp only at served
          by_cases own : response.inquiryId = message.inquiryId
          · rw [if_pos own] at served
            obtain ⟨content, same, rfl⟩ := Option.map_eq_some_iff.1 served
            rw [State.contentOf, there] at same
            cases same
            have present := orderly message found stored
            rw [key] at stored ⊢
            refine (h.commitSubmission there stored own knows present).answerSubmit found
              ⟨op, there, key, knows, ?_, fun _ same => by cases same⟩
            intro response' answer
            cases answer
            exact ⟨own, _, Function.update_self _ _ _, rfl⟩
          · rw [if_neg own] at served
            cases served

theorem Invariant.onCreate (h : Invariant uppercase s) (called : s.calls[i]? = some c)
    (creating : c.phase = .creating m) {answer : Except Failure InquiryResponse}
    (answered : ∀ inquiry, answer = .ok inquiry →
      s.creates[m]?.bind (·.answer) = some (.ok inquiry))
    (handled : s.onCreate i c answer = some t) : Invariant uppercase t := by
  obtain ⟨op, there, content, own⟩ := h.calls i c called
  rw [creating] at own
  obtain ⟨message, found, same⟩ := own
  cases answer with
  | error f =>
      cases handled
      exact h.setPhase ⟨op, there, content, trivial⟩
  | ok inquiry =>
      obtain ⟨op', there', rfl⟩ := Option.map_eq_some_iff.1 handled
      cases there.symm.trans there'
      have given := answered inquiry rfl
      rw [found] at given
      have knows : KnowsInquiry s op inquiry := by
        obtain ⟨op'', there'', _, _, accepted, _⟩ := h.creates m message found
        rw [same, there] at there''
        cases there''
        exact accepted inquiry given
      have same' : SameOperation op { op with createdInquiry := some inquiry } :=
        ⟨rfl, rfl, rfl, rfl, fun h => h⟩
      have more := extends_setOperation there same'
      have changed := h.setOperation there same' fun inquiry' created => by
        cases created
        exact knows
      have found' := set_self (d := { op with createdInquiry := some inquiry }) there
      have knows' := knows.extend more same'
      have sent := changed.sendSubmit found' knows'
      exact sent.setPhase ⟨_, found', content, knows',
        ⟨c.operation, op.submitIdempotencyKey, inquiry.inquiryId, inquiry.stateVersion, none⟩,
        List.getElem?_concat_length, rfl, rfl⟩

theorem extends_close {fingerprint : String} {content : IntakeContent} :
    Extends s ((s.remove fingerprint o).reset content) := by
  unfold State.remove
  split
  · exact { Extends.refl with }
  · exact { Extends.refl with }

/-- What a call that is submitting knows of its operation and of the answer it gets. -/
structure Answered (uppercase : String → String) (s : State) (op : PendingIntakeOperation)
    (inquiry : InquiryResponse) (answer : Except Failure SubmitSymptomResponse) : Prop where
  knows : KnowsInquiry s op inquiry
  committed : ∀ response, answer = .ok response → response.inquiryId = inquiry.inquiryId ∧
    ∃ record, s.submissions op.submitIdempotencyKey = some record ∧
      record.inquiryId = inquiry.inquiryId
  retried : ∀ f, answer = .error f → (retryableDraftConflict uppercase f).isSome = true →
    op.refused = true
  closed : ∀ f, answer = .error f → closes uppercase f = true → inquiry.inquiryId ∈ s.gone

theorem Answered.finished {inquiry : InquiryResponse} {answer : Except Failure SubmitSymptomResponse}
    (h : Answered uppercase s op inquiry answer)
    (ends : (∃ response, answer = .ok response) ∨
      ∃ f, answer = .error f ∧ closes uppercase f = true) :
    ∃ record, s.creations op.createIdempotencyKey = some record ∧
      ((s.submissions op.submitIdempotencyKey).isSome = true ∨
        record.inquiry.inquiryId ∈ s.gone) := by
  obtain ⟨record, created, named, _⟩ := h.knows
  refine ⟨record, created, ?_⟩
  rcases ends with ⟨response, same⟩ | ⟨f, same, closing⟩
  · obtain ⟨_, record', submitted, _⟩ := h.committed response same
    rw [submitted]
    exact .inl rfl
  · rw [named]
    exact .inr (h.closed f same closing)

theorem Invariant.onSubmit (h : Invariant uppercase s) {inquiry : InquiryResponse}
    {answer : Except Failure SubmitSymptomResponse}
    (there : s.operations[c.operation]? = some op) (content : op.content = c.request.content)
    (answered : Answered uppercase s op inquiry answer) :
    Invariant uppercase (s.onSubmit uppercase i c inquiry answer) := by
  have fingerprint : c.request.fingerprint = op.content.fingerprint :=
    congrArg IntakeContent.fingerprint content.symm
  have failed {u : State} (more : Extends s u) (f : Failure) :
      CallInvariant u i { c with phase := .returned (.error f) } := by
    obtain ⟨op', there', same⟩ := more.operations _ _ there
    exact ⟨op', there', same.content.trans content, trivial⟩
  unfold State.onSubmit
  cases answer with
  | ok response =>
      have finished := answered.finished (.inl ⟨response, rfl⟩)
      have closed := h.close there finished
      rw [fingerprint, ← content]
      have more : Extends s ((s.remove op.content.fingerprint c.operation).reset op.content) :=
        extends_close
      obtain ⟨op', there', same⟩ := more.operations _ _ there
      refine closed.setPhase ⟨op', there', same.content.trans content, ?_⟩
      obtain ⟨identified, record, submitted, own⟩ := answered.committed response rfl
      obtain ⟨record', created, named, coded, _⟩ := answered.knows
      have whole : Named s op
          { inquiryId := response.inquiryId
            inquiryCode := inquiry.inquiryCode
            guidanceScenario := "BACKEND_PROCESSING"
            statusCode := response.state
            stateVersion := response.stateVersion
            allowedActions := response.allowedActions
            idempotentReplay := response.idempotentReplay } :=
        ⟨⟨record, submitted, own.trans identified.symm⟩, record', created,
          named.trans identified.symm, coded⟩
      exact whole.extend more same
  | error f =>
      cases retry : retryableDraftConflict uppercase f with
      | some conflict =>
          have refused := answered.retried f rfl (by rw [retry]; rfl)
          simp only [retry]
          unfold State.patch
          simp only [there]
          by_cases remembered : s.pending c.request.fingerprint = some c.operation
          · rw [if_pos remembered]
            obtain ⟨record, created, named, coded, _⟩ := answered.knows
            have same : SameOperation op { op with
                createdInquiry := some { inquiry with
                  statusCode := conflict.1.currentStatus.getD inquiry.statusCode
                  stateVersion := conflict.2
                  allowedActions := conflict.1.allowedActions } } :=
              ⟨rfl, rfl, rfl, rfl, fun h => h⟩
            refine (h.setOperation there same ?_).setPhase (failed (extends_setOperation there same) f)
            intro inquiry' patched
            cases patched
            refine ⟨record, created, named, coded, fun accepted => ?_⟩
            have accepted' : op.refused = false := accepted
            rw [refused] at accepted'
            cases accepted'
          · rw [if_neg remembered]
            exact h.setPhase (failed .refl f)
      | none =>
          simp only [retry]
          by_cases invalidates : invalidatesPendingInquiry uppercase f = true
          · rw [if_pos invalidates, fingerprint, ← content]
            have closing : closes uppercase f = true := by
              unfold closes
              rw [retry, invalidates]
              rfl
            exact (h.close there (answered.finished (.inr ⟨f, rfl, closing⟩))).setPhase
              (failed extends_close f)
          · rw [if_neg invalidates]
            exact h.setPhase (failed .refl f)

/-- The answer that the Backend has given to a message of the call. -/
theorem Invariant.answered (h : Invariant uppercase s) (called : s.calls[i]? = some c)
    {inquiry : InquiryResponse} (submitting : c.phase = .submitting m inquiry)
    {answer : Except Failure SubmitSymptomResponse}
    (given : s.submits[m]?.bind (·.answer) = some answer) :
    ∃ op, s.operations[c.operation]? = some op ∧ op.content = c.request.content ∧
      Answered uppercase s op inquiry answer := by
  obtain ⟨op, there, content, own⟩ := h.calls i c called
  rw [submitting] at own
  obtain ⟨knows, message, found, same, named⟩ := own
  rw [found] at given
  obtain ⟨op', there', _, _, accepted, refused⟩ := h.submits m message found
  rw [same, there] at there'
  cases there'
  refine ⟨op, there, content, knows, ?_, ?_, ?_⟩
  · rintro response rfl
    rw [← named]
    exact accepted response given
  · rintro f rfl _
    exact (refused f given).1
  · rintro f rfl closing
    rw [← named]
    exact (refused f given).2 closing

/-- A lost request says nothing of the inquiry. -/
theorem Invariant.unanswered (h : Invariant uppercase s) (called : s.calls[i]? = some c)
    {inquiry : InquiryResponse} (submitting : c.phase = .submitting m inquiry) {f : Failure}
    (lost : f.httpStatus = none ∧ f.conflict = none) :
    ∃ op, s.operations[c.operation]? = some op ∧ op.content = c.request.content ∧
      Answered uppercase s op inquiry (.error f) := by
  obtain ⟨op, there, content, own⟩ := h.calls i c called
  rw [submitting] at own
  have unconflicted : retryableDraftConflict uppercase f = none := by
    unfold retryableDraftConflict
    rw [lost.2]
    rfl
  have valid : invalidatesPendingInquiry uppercase f = false := by
    unfold invalidatesPendingInquiry
    rw [lost.1, lost.2]
    rfl
  refine ⟨op, there, content, own.1, (fun _ same => by cases same), ?_, ?_⟩
  · intro f' same retried
    cases same
    rw [unconflicted] at retried
    cases retried
  · intro f' same closing
    cases same
    unfold closes at closing
    rw [valid, Bool.and_false] at closing
    cases closing

theorem Invariant.step {a : Action} (h : Invariant uppercase s) (orderly : Orderly s a)
    (step : Step uppercase s a t) : Invariant uppercase t := by
  unfold Step State.perform at step
  cases a with
  | start r => exact h.start orderly step
  | serveCreate m decision =>
      obtain ⟨message, found, served⟩ := Option.bind_eq_some_iff.1 step
      split at served
      · cases served
      · exact h.serveCreate found served
  | serveSubmit m decision =>
      obtain ⟨message, found, served⟩ := Option.bind_eq_some_iff.1 step
      split at served
      · cases served
      · exact h.serveSubmit found orderly served
  | receive i =>
      obtain ⟨c, called, received⟩ := Option.bind_eq_some_iff.1 step
      cases phase : c.phase with
      | creating m =>
          rw [phase] at received
          obtain ⟨answer, given, handled⟩ := Option.bind_eq_some_iff.1 received
          refine h.onCreate called phase ?_ handled
          rintro inquiry rfl
          exact given
      | submitting m inquiry =>
          rw [phase] at received
          obtain ⟨answer, given, rfl⟩ := Option.map_eq_some_iff.1 received
          have ⟨op, there, content, answered⟩ := h.answered called phase given
          exact h.onSubmit there content answered
      | returned _ =>
          rw [phase] at received
          cases received
      | cancelled =>
          rw [phase] at received
          cases received
  | lose i f =>
      by_cases lost : f.httpStatus = none ∧ f.conflict = none
      · simp only [if_pos lost] at step
        obtain ⟨c, called, given⟩ := Option.bind_eq_some_iff.1 step
        cases phase : c.phase with
        | creating m =>
            rw [phase] at given
            exact h.onCreate called phase (fun _ same => by cases same) given
        | submitting m inquiry =>
            rw [phase] at given
            cases given
            have ⟨op, there, content, answered⟩ := h.unanswered called phase lost
            exact h.onSubmit there content answered
        | returned _ =>
            rw [phase] at given
            cases given
        | cancelled =>
            rw [phase] at given
            cases given
      · simp only [if_neg lost] at step
        cases step
  | cancel i =>
      obtain ⟨c, called, given⟩ := Option.bind_eq_some_iff.1 step
      have stopped : Invariant uppercase (s.setPhase i c .cancelled) := by
        obtain ⟨op, there, content, _⟩ := h.calls i c called
        exact h.setPhase ⟨op, there, content, trivial⟩
      cases phase : c.phase with
      | creating _ | submitting _ _ =>
          rw [phase] at given
          cases given
          exact stopped
      | returned _ | cancelled =>
          rw [phase] at given
          cases given

theorem invariant_initial : Invariant uppercase initial where
  draws := rfl
  pending _ _ remembered := by cases remembered
  unused _ _ := ⟨rfl, rfl⟩
  operations := each_nil
  calls := each_nil
  creates := each_nil
  submits := each_nil
  created _ := ⟨Nat.zero_le _, fun some => absurd rfl some⟩
  submitted _ := ⟨Nat.zero_le _, fun some => absurd rfl some⟩

theorem Invariant.integrity (h : Invariant uppercase s) : IntakeIntegrity s where
  sameBody := by
    intro message mem message' mem' same
    obtain ⟨m, found⟩ := List.mem_iff_getElem?.1 mem
    obtain ⟨m', found'⟩ := List.mem_iff_getElem?.1 mem'
    obtain ⟨op, there, key, body, _⟩ := h.creates m message found
    obtain ⟨op', there', key', body', _⟩ := h.creates m' message' found'
    have own := (h.operations _ op there).eq_of_createKey (h.operations _ op' there')
      (key.symm.trans (same.trans key'))
    rw [own] at there
    cases there.symm.trans there'
    exact body.trans body'.symm
  sameContent := by
    intro c mem c' mem' same
    obtain ⟨i, found⟩ := List.mem_iff_getElem?.1 mem
    obtain ⟨i', found'⟩ := List.mem_iff_getElem?.1 mem'
    obtain ⟨op, there, content, _⟩ := h.calls i c found
    obtain ⟨op', there', content', _⟩ := h.calls i' c' found'
    rw [same] at there
    cases there.symm.trans there'
    exact content.symm.trans content'
  oneCreation content := (h.created content).1
  oneSubmission content := (h.submitted content).1
  named := by
    intro c mem submission returned
    obtain ⟨i, found⟩ := List.mem_iff_getElem?.1 mem
    obtain ⟨op, there, _, own⟩ := h.calls i c found
    rw [returned] at own
    exact ⟨op, there, own⟩

/-! ### A repeated call -/

/-- The submission of a call is delivered, and its answer too. -/
theorem Invariant.delivered_submit (h : Invariant uppercase s) (called : s.calls[i]? = some c)
    {inquiry : InquiryResponse} (submitting : c.phase = .submitting m inquiry)
    {message : SubmitMessage} (found : s.submits[m]? = some message)
    (unanswered : message.answer = none) (there : s.operations[message.operation]? = some op)
    (kept : op.refused = false) (response : SubmitSymptomResponse)
    (named : response.inquiryId = message.inquiryId) :
    ∃ u t : State, ∃ c' : Call, ∃ submission,
      s.perform uppercase (.serveSubmit m (.ok response)) = some u ∧
      u.perform uppercase (.receive i) = some t ∧ t.calls[i]? = some c' ∧
      c'.request = c.request ∧ c'.phase = .returned (.ok submission) := by
  obtain ⟨op', there', key, knows, _, _⟩ := h.submits m message found
  cases there.symm.trans there'
  have served : ∃ (u : State) (response' : SubmitSymptomResponse),
      s.perform uppercase (.serveSubmit m (.ok response)) = some u ∧ u.calls = s.calls ∧
      u.submits[m]? = some { message with answer := some (.ok response') } := by
    unfold State.perform State.serveSubmit
    simp only [found, Option.bind_some, unanswered, Option.isSome_none, Bool.false_eq_true, if_false]
    cases stored : s.submissions message.idempotencyKey with
    | some record =>
        have own := stored
        rw [key] at own
        obtain ⟨_, record', created, identified, versioned⟩ :=
          (h.operations _ op there).submitted record own
        obtain ⟨record'', created', identified', versioned'⟩ := knows
        cases created.symm.trans created'
        have same : record.inquiryId = message.inquiryId ∧
            record.stateVersion = message.stateVersion :=
          ⟨identified.symm.trans identified', (versioned kept).symm.trans (versioned' kept)⟩
        exact ⟨_, _, if_pos same, rfl, set_self found⟩
    | none =>
        simp only [if_pos named, State.contentOf, there, Option.map_some]
        exact ⟨_, _, rfl, rfl, set_self found⟩
  obtain ⟨u, response', performed, calls, answered⟩ := served
  have called' : u.calls[i]? = some c := by
    rw [calls]
    exact called
  have returned : u.perform uppercase (.receive i) =
      some (u.onSubmit uppercase i c inquiry (.ok response')) := by
    unfold State.perform
    simp only [called', Option.bind_some, submitting, answered, Option.map_some]
  have kept' : ((u.remove c.request.fingerprint c.operation).reset c.request.content).calls =
      u.calls := by
    unfold State.remove
    split <;> rfl
  have finished : ∃ submission, (u.onSubmit uppercase i c inquiry (.ok response')).calls[i]? =
      some { c with phase := .returned (.ok submission) } := by
    unfold State.onSubmit State.setPhase
    rw [kept']
    exact ⟨_, set_self called'⟩
  obtain ⟨submission, called''⟩ := finished
  exact ⟨u, _, _, submission, performed, returned, called'', rfl, rfl⟩

/-- The creation of a call is delivered, and its answer too. -/
theorem Invariant.delivered_create (h : Invariant uppercase s) (called : s.calls[i]? = some c)
    (creating : c.phase = .creating m) {message : CreateMessage}
    (found : s.creates[m]? = some message) (unanswered : message.answer = none)
    (same : message.operation = c.operation) (there : s.operations[c.operation]? = some op)
    (inquiry : InquiryResponse) (fresh : inquiry.inquiryId ∉ s.inquiries) :
    ∃ u t : State, ∃ inquiry' : InquiryResponse,
      s.perform uppercase (.serveCreate m (.ok inquiry)) = some u ∧
      u.perform uppercase (.receive i) = some t ∧
      t.calls[i]? = some { c with phase := .submitting s.submits.length inquiry' } ∧
      t.submits[s.submits.length]? = some ⟨c.operation, op.submitIdempotencyKey,
        inquiry'.inquiryId, inquiry'.stateVersion, none⟩ ∧
      t.operations[c.operation]? = some { op with createdInquiry := some inquiry' } := by
  obtain ⟨op', there', key, body, _⟩ := h.creates m message found
  rw [← same] at there
  cases there.symm.trans there'
  have served : ∃ (u : State) (inquiry' : InquiryResponse),
      s.perform uppercase (.serveCreate m (.ok inquiry)) = some u ∧ u.calls = s.calls ∧
      u.operations = s.operations ∧ u.submits = s.submits ∧
      u.creates[m]? = some { message with answer := some (.ok inquiry') } := by
    unfold State.perform State.serveCreate
    simp only [found, Option.bind_some, unanswered, Option.isSome_none, Bool.false_eq_true, if_false]
    cases stored : s.creations message.idempotencyKey with
    | some record =>
        rw [key] at stored
        have own : record.body = message.body :=
          ((h.operations _ op there).stored record stored).trans body.symm
        exact ⟨_, _, if_pos own, rfl, rfl, rfl, set_self found⟩
    | none =>
        simp only [if_neg fresh, State.contentOf, there, Option.map_some]
        exact ⟨_, _, rfl, rfl, rfl, rfl, set_self found⟩
  obtain ⟨u, inquiry', performed, calls, operations, submits, answered⟩ := served
  have called' : u.calls[i]? = some c := by
    rw [calls]
    exact called
  have there'' : u.operations[c.operation]? = some op := by
    rw [operations, ← same]
    exact there
  have received : u.perform uppercase (.receive i) = some
      (((u.setOperation c.operation { op with createdInquiry := some inquiry' }).sendSubmit
        c.operation op inquiry').setPhase i c (.submitting u.submits.length inquiry')) := by
    unfold State.perform State.onCreate
    simp only [called', Option.bind_some, creating, answered, there'', Option.map_some]
  rw [← submits]
  exact ⟨u, _, inquiry', performed, received, set_self called', List.getElem?_concat_length,
    set_self there''⟩

/-- The repeated call has a success. -/
def Resumes (uppercase : String → String) (s : State) (r : SymptomIntakeRequest) : Prop :=
  ∀ (inquiry : InquiryResponse) (response : SubmitSymptomResponse),
    inquiry.inquiryId ∉ s.inquiries → ∃ inquiryId, ∃ t : State, ∃ c : Call, ∃ submission,
      Run (Step uppercase) s (redo s r inquiry { response with inquiryId := inquiryId }) t ∧
      t.calls[s.calls.length]? = some c ∧ c.request = r ∧ c.phase = .returned (.ok submission)

/-- The start of a call whose operation has no inquiry yet, or has one. -/
theorem start_creating {r : SymptomIntakeRequest} (joined : s.getOrPut r = (t, o))
    (there : t.operations[o]? = some op) (new : op.createdInquiry = none) :
    s.start r = some ((t.sendCreate o op r.createBody).addCall ⟨r, o, .creating t.creates.length⟩) := by
  unfold State.start
  rw [joined]
  simp only [there, Option.map_some, new]

theorem start_submitting {r : SymptomIntakeRequest} {inquiry : InquiryResponse}
    (joined : s.getOrPut r = (t, o)) (there : t.operations[o]? = some op)
    (created : op.createdInquiry = some inquiry) :
    s.start r = some
      ((t.sendSubmit o op inquiry).addCall ⟨r, o, .submitting t.submits.length inquiry⟩) := by
  unfold State.start
  rw [joined]
  simp only [there, Option.map_some, created]

/-- The operation of the repeated call, and what it has to send. -/
theorem Invariant.getOrPut (h : Invariant uppercase s) {r : SymptomIntakeRequest}
    (lost : OnlyLost s r) : ∃ t o op, s.getOrPut r = (t, o) ∧ t.operations[o]? = some op ∧
      op.refused = false ∧ t.calls = s.calls ∧ t.creates = s.creates ∧ t.submits = s.submits ∧
      t.inquiries = s.inquiries ∧
      ((s.pending r.fingerprint).bind fun o => s.operations[o]?).bind (·.createdInquiry) =
        op.createdInquiry := by
  unfold State.getOrPut
  cases pending : s.pending r.fingerprint with
  | some o =>
      obtain ⟨op, there, _⟩ := h.pending r.fingerprint o pending
      refine ⟨s, o, op, rfl, there, lost o op pending there, rfl, rfl, rfl, rfl, ?_⟩
      rw [Option.bind_some, there, Option.bind_some]
  | none =>
      exact ⟨_, _, _, rfl, List.getElem?_concat_length, rfl, rfl, rfl, rfl, rfl, rfl⟩

theorem Invariant.resumes (h : Invariant uppercase s) {r : SymptomIntakeRequest}
    (orderly : Orderly s (.start r)) (lost : OnlyLost s r) : Resumes uppercase s r := by
  intro inquiry response fresh
  obtain ⟨t, o, op, joined, there, kept, calls, creates, submits, inquiries, created⟩ :=
    h.getOrPut lost
  unfold redo
  rw [created]
  cases known : op.createdInquiry with
  | some inquiry' =>
      have started := start_submitting joined there known
      have h' := h.start orderly started
      obtain ⟨u, v, c', submission, served, received, returned, own, phase⟩ :=
        h'.delivered_submit (i := t.calls.length) (m := t.submits.length)
          List.getElem?_concat_length rfl List.getElem?_concat_length rfl there kept
          { response with inquiryId := inquiry'.inquiryId } rfl
      have run : Run (Step uppercase) s [.start r, .serveSubmit t.submits.length (.ok
          { response with inquiryId := inquiry'.inquiryId }), .receive t.calls.length] v :=
        ((Run.refl.snoc started).snoc served).snoc received
      rw [← calls, ← submits]
      exact ⟨inquiry'.inquiryId, v, c', submission, run, returned, own, phase⟩
  | none =>
      have started := start_creating joined there known
      have h' := h.start orderly started
      obtain ⟨u, v, inquiry', served, received, submitting, sent, there'⟩ :=
        h'.delivered_create (i := t.calls.length) (m := t.creates.length)
          List.getElem?_concat_length rfl List.getElem?_concat_length rfl rfl there
          inquiry (inquiries ▸ fresh)
      have h'' := (h'.step (a := .serveCreate _ _) trivial served).step (a := .receive _) trivial
        received
      obtain ⟨u', v', c', submission, served', received', returned, own, phase⟩ :=
        h''.delivered_submit submitting rfl sent rfl there' kept
          { response with inquiryId := inquiry'.inquiryId } rfl
      have first : Run (Step uppercase) s [.start r, .serveCreate t.creates.length (.ok inquiry),
          .receive t.calls.length] v := ((Run.refl.snoc started).snoc served).snoc received
      have run := (first.snoc served').snoc received'
      rw [← calls, ← creates, ← submits]
      exact ⟨inquiry'.inquiryId, v', c', submission, run, returned, own, phase⟩

/-- In an orderly run every create key has one body, an operation one content, a content at most one
creation and one submission until a call for it has ended, and a success names what was submitted;
a call repeated after losses succeeds. -/
theorem run_intake {actions : List Action}
    (run : Run (Restrict Orderly (Step uppercase)) initial actions s) :
    IntakeIntegrity s ∧
      ∀ r, Orderly s (.start r) → OnlyLost s r → Resumes uppercase s r := by
  have h : Invariant uppercase s := by
    refine run.invariant ?_ invariant_initial
    intro t a u h step
    exact h.step step.1 step.2
  exact ⟨h.integrity, fun _ orderly lost => h.resumes orderly lost⟩

end

/-! ### Runs on fixed requests -/

namespace IntakeSample

theorem forall_found {p : PendingIntakeOperation → Prop} {s : State} {fingerprint : String} :
    (∀ op ∈ (s.pending fingerprint).bind (s.operations[·]?), p op) ↔
      ∀ o op, s.pending fingerprint = some o → s.operations[o]? = some op → p op := by
  constructor
  · intro all o op remembered found
    refine all op ?_
    rw [remembered]
    exact found
  · intro all op mem
    obtain ⟨o, remembered, found⟩ := Option.bind_eq_some_iff.1 mem
    exact all o op remembered found

instance (s : State) (r : SymptomIntakeRequest) : Decidable (OnlyLost s r) :=
  decidable_of_iff _ forall_found

instance (s : State) (r : SymptomIntakeRequest) : Decidable (Orderly s (.start r)) :=
  decidable_of_iff _ forall_found

/-- A start that is orderly, a message of the network, or a lost one. -/
def perform (s : State) : Action → Option State
  | .start r => if Orderly s (.start r) then s.perform id (.start r) else none
  | .serveSubmit _ (.ok _) => none
  | a => s.perform id a

theorem perform_sound (s : State) (a : Action) (t : State) (performed : perform s a = some t) :
    Restrict Orderly (Step id) s a t := by
  cases a with
  | start r =>
      unfold perform at performed
      by_cases orderly : Orderly s (.start r)
      · simp only [if_pos orderly] at performed
        exact ⟨orderly, performed⟩
      · simp only [if_neg orderly] at performed
        cases performed
  | serveSubmit m decision =>
      cases decision with
      | ok response => cases performed
      | error f => exact ⟨trivial, performed⟩
  | serveCreate _ _ | receive _ | lose _ _ | cancel _ => exact ⟨trivial, performed⟩

def request (symptomCodes : List String) (rawText : String) (occurrence : Option String) :
    SymptomIntakeRequest :=
  ⟨"sub-1", symptomCodes, rawText, occurrence, none, "TEXT"⟩

def leak : SymptomIntakeRequest := request ["LEAK"] "water" none

def inquiry : InquiryResponse := ⟨"inq-1", "Q-1", "DRAFT", 1, false, ["SUBMIT_SYMPTOM"]⟩

def submitted : SubmitSymptomResponse := ⟨"inq-1", "SUBMITTED", 2, false, []⟩

def network : Failure := ⟨"NETWORK_ERROR", "", none, true, none⟩

def missing : Failure := ⟨"INQUIRY_NOT_FOUND", "", some 404, false, none⟩

/-- An inquiry is created, and the answer is lost. -/
def lost : List Action := [.start leak, .serveCreate 0 (.ok inquiry), .lose 0 network]

/-- The symptoms of a lost request are chosen again in another order. -/
def reordered : List Action :=
  [.start (request ["NOISE", "LEAK"] "water" none), .lose 0 network,
    .start (request ["LEAK", "NOISE"] "water" none)]

/-- A separator stands in the text of one request and in the occurrence of the other. -/
def separated : List Action :=
  [.start (request ["LEAK"] "a\u001fb" (some "c")), .start (request ["LEAK"] "a" (some "b\u001fc"))]

/-- One of two submissions is refused with 404, and the other is still accepted. -/
def late : List Action :=
  [.start leak, .serveCreate 0 (.ok inquiry), .receive 0, .start leak, .start leak,
    .serveSubmit 0 (.error missing), .receive 0, .serveSubmit 1 (.ok submitted), .start leak,
    .serveCreate 1 (.ok { inquiry with inquiryId := "inq-2" }), .receive 3,
    .serveSubmit 3 (.ok { submitted with inquiryId := "inq-2" })]

end IntakeSample

theorem run_intake_lost : ∃ s, Run (Restrict Orderly (Step id)) initial IntakeSample.lost s ∧
    s.inquiries = ["inq-1"] ∧ IntakeIntegrity s ∧ Resumes id s IntakeSample.leak := by
  have done : ((IntakeSample.lost.foldlM IntakeSample.perform initial).map fun s =>
      (s.inquiries, decide (Orderly s (.start IntakeSample.leak) ∧ OnlyLost s IntakeSample.leak))) =
        some (["inq-1"], true) := by decide +kernel
  obtain ⟨s, performed, both⟩ := Option.map_eq_some_iff.1 done
  have ⟨inquiries, kept⟩ := Prod.mk.inj both
  have ⟨orderly, lost⟩ := of_decide_eq_true kept
  have run := Run.foldlM IntakeSample.perform_sound .refl performed
  have ⟨integrity, resumes⟩ := run_intake run
  exact ⟨s, run, inquiries, integrity, resumes _ orderly lost⟩

/-- One key is sent with two bodies; two contents share an operation; two submissions of a content
are committed after a call for it has failed. -/
theorem intake_broken :
    (∃ s, Run (Step id) initial IntakeSample.reordered s ∧
      ∃ m ∈ s.creates, ∃ m' ∈ s.creates, m.idempotencyKey = m'.idempotencyKey ∧ m.body ≠ m'.body) ∧
    (∃ s, Run (Step id) initial IntakeSample.separated s ∧
      ∃ c ∈ s.calls, ∃ c' ∈ s.calls, c.operation = c'.operation ∧
        c.request.content ≠ c'.request.content) ∧
    ∃ s, Run (Step id) initial IntakeSample.late s ∧
      s.submitted IntakeSample.leak.content = 2 := by
  refine ⟨?_, ?_, ?_⟩
  · have done : ((IntakeSample.reordered.foldlM (State.perform · id) initial).map fun s =>
        decide (∃ m ∈ s.creates, ∃ m' ∈ s.creates, m.idempotencyKey = m'.idempotencyKey ∧
          m.body ≠ m'.body)) = some true := by decide +kernel
    obtain ⟨s, performed, broken⟩ := Option.map_eq_some_iff.1 done
    have run : Run (Step id) _ _ s := Run.foldlM (fun _ _ _ h => h) .refl performed
    exact ⟨s, run, of_decide_eq_true broken⟩
  · have done : ((IntakeSample.separated.foldlM (State.perform · id) initial).map fun s =>
        decide (∃ c ∈ s.calls, ∃ c' ∈ s.calls, c.operation = c'.operation ∧
          c.request.content ≠ c'.request.content)) = some true := by decide +kernel
    obtain ⟨s, performed, broken⟩ := Option.map_eq_some_iff.1 done
    have run : Run (Step id) _ _ s := Run.foldlM (fun _ _ _ h => h) .refl performed
    exact ⟨s, run, of_decide_eq_true broken⟩
  · have done : ((IntakeSample.late.foldlM (State.perform · id) initial).map fun s =>
        s.submitted IntakeSample.leak.content) = some 2 := by decide +kernel
    obtain ⟨s, performed, twice⟩ := Option.map_eq_some_iff.1 done
    have run : Run (Step id) _ _ s := Run.foldlM (fun _ _ _ h => h) .refl performed
    exact ⟨s, run, twice⟩

end WaterCare.Client.IntakeRepository
