import WaterCare.Service.Analysis

/-!
`human_review_resume_dispatch_service.py` and `human_review_resume.py`: the outbox of the
resume of a rejected review. Claiming a row, sending the request and recording its outcome
are steps of their own, and a worker may stop between any two of them.
-/

namespace WaterCare.Service
open Store Py

/-! ### The row -/

inductive DispatchStatus
  | pending
  | dispatching
  | succeeded
  | failedPreSend
  | outcomeUnknown
  deriving DecidableEq, Repr

/-- What a receipt of the AI leaves on the row. -/
structure HumanReviewResumeReceipt where
  providerCalls : Nat
  contextSynthesisStatus : String
  fallbackReason : Option String
  handoffDeliveryScheduled : Bool
  idempotentReplay : Bool

structure HumanReviewResumeDispatch where
  publicId : Nat
  humanReview : Nat
  idempotencyKey : String
  sourceReviewStateVersion : Nat
  status : DispatchStatus
  attemptCount : Nat
  payloadSha256 : String
  startedAt : Option Instant
  completedAt : Option Instant
  failureCode : String
  providerCalls : Option Nat
  contextSynthesisStatus : Option String
  fallbackReason : Option String
  handoffDeliveryScheduled : Option Bool
  idempotentReplay : Option Bool
  createdAt : Instant
  deriving DecidableEq

namespace HumanReviewResumeDispatch
variable (d : HumanReviewResumeDispatch)

/-- `^[0-9a-f]{64}$`. -/
def isSha256 (text : String) : Bool :=
  decide (text.length = 64) && text.toList.all fun c =>
    decide ('0' ≤ c ∧ c ≤ '9') || decide ('a' ≤ c ∧ c ≤ 'f')

/-- Nothing of a receipt is there. -/
def unanswered : Bool :=
  d.providerCalls.isNone && d.contextSynthesisStatus.isNone && d.fallbackReason.isNone &&
    d.handoffDeliveryScheduled.isNone && d.idempotentReplay.isNone

/-- `ck_hreview_resume_dispatch_state`. -/
def stateFields : Bool :=
  match d.status with
  | .pending =>
      decide (d.attemptCount = 0) && d.payloadSha256 == "" && d.startedAt.isNone &&
        d.completedAt.isNone && d.failureCode == "" && d.unanswered
  | .dispatching =>
      decide (d.attemptCount = 1) && d.payloadSha256 != "" && d.startedAt.isSome &&
        d.completedAt.isNone && d.failureCode == "" && d.unanswered
  | .succeeded =>
      decide (d.attemptCount = 1) && d.payloadSha256 != "" && d.startedAt.isSome &&
        d.completedAt.isSome && d.failureCode == "" &&
        (d.providerCalls == some 0 || d.providerCalls == some 1) &&
        d.contextSynthesisStatus.any (["SUCCEEDED", "FALLBACK", "UNAVAILABLE"].contains ·) &&
        d.handoffDeliveryScheduled.isSome && d.idempotentReplay.isSome
  | .failedPreSend =>
      decide (d.attemptCount = 0) && d.payloadSha256 == "" && d.startedAt.isNone &&
        d.completedAt.isSome && d.failureCode != "" && d.unanswered
  | .outcomeUnknown =>
      decide (d.attemptCount = 1) && d.payloadSha256 != "" && d.startedAt.isSome &&
        d.completedAt.isSome && d.failureCode != "" && d.unanswered

/-- `ck_hreview_resume_fallback_state`, `ck_hreview_resume_fallback_reason` and
`ck_hreview_resume_provider_success`. -/
def fallbackFields : Bool :=
  (d.fallbackReason.isNone || d.contextSynthesisStatus == some "FALLBACK") &&
    (d.contextSynthesisStatus != some "FALLBACK" || d.fallbackReason.isSome) &&
    (d.contextSynthesisStatus != some "SUCCEEDED" ||
      d.providerCalls == some 1 && d.fallbackReason.isNone)

instance : Table HumanReviewResumeDispatch where
  accepts d := decide (d.sourceReviewStateVersion = 2) && decide (d.attemptCount ≤ 1) &&
    d.stateFields && d.fallbackFields && decide (d.idempotencyKey.length ≤ 128) &&
    decide (d.failureCode.length ≤ 80) && (d.payloadSha256 == "" || isSha256 d.payloadSha256) &&
    d.contextSynthesisStatus.all (fun text => decide (text.length ≤ 20)) &&
    d.fallbackReason.all fun text => decide (text.length ≤ 40)

end HumanReviewResumeDispatch

/-! ### What the payload is built from -/

structure ResumeReview where
  publicId : String
  status : ReviewStatus
  decision : Option ReviewDecision
  decisionCorrelationId : Option String
  reviewStateVersion : Nat
  sourceAiRequestId : String
  sourceInquiryStateVersion : Nat
  checkpointThreadId : String

structure ResumeLedger where
  /-- `full_clean` raises nothing. -/
  isClean : Bool
  contractVersion : String
  producer : String
  inquiry : Nat
  run : Nat
  correlationId : String
  aiRequestId : String
  sourceInquiryStateVersion : Nat
  modelCode : String
  executionIdentity : Value

structure ResumeRun where
  id : Nat
  status : RunStatus
  schemaStatus : SchemaStatus
  correlationId : String
  validatedOutput : Value
  inputPayload : Value
  ledger : Option ResumeLedger

structure ResumeLink where
  isVerified : Bool
  run : Nat
  chunk : Nat

/-- A review with the rows around it. The crosswalk holds its active, verified entries. -/
structure ResumeSource where
  review : ResumeReview
  inquiry : Nat
  inquiryPublicId : String
  inquiryStateVersion : Nat
  modelCode : String
  run : Option ResumeRun
  links : List ResumeLink
  crosswalk : Nat → Option String

structure ResumeSettings where
  resumeEnabled : Bool
  upper : String → String
  /-- `str(value)`. -/
  textOf : Value → String
  payloadSha256 : Value → String
  /-- `_checkpoint_thread_id` of an inquiry, a request and a version. -/
  checkpointThreadId : String → String → Nat → String

namespace ResumeReview

/-- `_resume_idempotency_key`. -/
def resumeIdempotencyKey (review : ResumeReview) : String :=
  "human-review-resume:" ++ review.publicId ++ ":" ++ toString review.reviewStateVersion

/-- An official REJECT at version 2. -/
def isOfficialReject (review : ResumeReview) : Bool :=
  decide (review.status = .rejected) && decide (review.decision = some .reject) &&
    decide (review.reviewStateVersion = 2)

end ResumeReview

section
variable (settings : ResumeSettings) (source : ResumeSource)

/-- `is_review_model_approved`. -/
def isReviewModelApproved : Bool := settings.upper (strip source.modelCode) == "WPUJAC104DWH"

/-- The identifiers an input or an output of the run has to repeat. -/
def requiredIdentifiers (run : ResumeRun) : List (String × String) :=
  [("inquiry_id", source.inquiryPublicId), ("correlation_id", run.correlationId),
    ("ai_request_id", source.review.sourceAiRequestId),
    ("state_version", toString source.review.sourceInquiryStateVersion),
    ("model_code", source.modelCode)]

def identifiersMatch (run : ResumeRun) (payload : Dict) : Bool :=
  (requiredIdentifiers source run).all fun entry =>
    settings.textOf (payload.get entry.1) == entry.2

/-- The canonical identifiers of the evidence, or why it is refused. -/
def canonicalIds : List Value → Except String (List String)
  | [] => .ok []
  | item :: rest =>
      match item with
      | .dict fields =>
          match Dict.get fields "chunk_id" with
          | .atom (.str chunk) =>
              if hasText chunk && (Dict.get fields "verification_status").eqStr "official_verified" then
                (chunk :: ·) <$> canonicalIds rest
              else .error "AI_RESUME_EVIDENCE_NOT_OFFICIAL"
          | _ => .error "AI_RESUME_EVIDENCE_NOT_OFFICIAL"
      | _ => .error "AI_RESUME_EVIDENCE_NOT_OFFICIAL"

def checkLedger (run : ResumeRun) : Except String Unit :=
  match run.ledger with
  | none => .error "AI_RESUME_CAUSE_LEDGER_MISSING"
  | some ledger =>
      if !ledger.isClean then .error "AI_RESUME_CAUSE_LEDGER_INVALID"
      else if ledger.contractVersion ≠ "1.0.0" ∨ ledger.producer ≠ "AI_HARNESS" ∨
          ledger.inquiry ≠ source.inquiry ∨ ledger.run ≠ run.id ∨
          ledger.correlationId ≠ run.correlationId ∨
          ledger.aiRequestId ≠ source.review.sourceAiRequestId ∨
          ledger.sourceInquiryStateVersion ≠ source.review.sourceInquiryStateVersion ∨
          ledger.modelCode ≠ source.modelCode then
        .error "AI_RESUME_CAUSE_LEDGER_MISMATCH"
      else
        match ledger.executionIdentity with
        | .dict fields =>
            if (Dict.get fields "runtime_name").eqStr "multi_agent" then .ok ()
            else .error "AI_RESUME_RUNTIME_NOT_MULTI_AGENT"
        | _ => .error "AI_RESUME_RUNTIME_NOT_MULTI_AGENT"

def resumePayload (analysis : Value) (correlationId : String) : Value :=
  let review := source.review
  .dict
    [ (.str "contract_version", .atom (.str "1.0.0")),
      (.str "backend_review_id", .atom (.str review.publicId)),
      (.str "review_state_version", .atom (.int review.reviewStateVersion)),
      (.str "decision", .atom (.str "REJECT")),
      (.str "decision_correlation_id", .atom (.str correlationId)),
      (.str "source_inquiry_state_version", .atom (.int review.sourceInquiryStateVersion)),
      (.str "current_inquiry_state_version", .atom (.int source.inquiryStateVersion)),
      (.str "checkpoint_thread_id", .atom (.str review.checkpointThreadId)),
      (.str "analysis_result", analysis) ]

/-- `build_human_review_resume_payload`, on the rows it loads. -/
def buildHumanReviewResumePayload : Except String (Value × String) :=
  let review := source.review
  if !isReviewModelApproved settings source then .error "RUNTIME_PRODUCT_NOT_APPROVED"
  else
    match review.decisionCorrelationId with
    | none => .error "AI_RESUME_REVIEW_NOT_REJECTED"
    | some correlationId =>
        if !review.isOfficialReject then .error "AI_RESUME_REVIEW_NOT_REJECTED"
        else
          match source.run with
          | none => .error "AI_RESUME_RUN_NOT_VERIFIED"
          | some run =>
              match run.validatedOutput with
              | .dict analysis =>
                  if !InquiryAIService.isUsable run.status ∨ run.schemaStatus ≠ .passed then
                    .error "AI_RESUME_RUN_NOT_VERIFIED"
                  else if !identifiersMatch settings source run analysis then
                    .error "AI_RESUME_OUTPUT_ID_MISMATCH"
                  else
                    match run.inputPayload with
                    | .dict input =>
                        if !identifiersMatch settings source run input then
                          .error "AI_RESUME_INPUT_ID_MISMATCH"
                        else if source.inquiryStateVersion ≠
                            review.sourceInquiryStateVersion + 1 then
                          .error "AI_RESUME_STALE_INQUIRY_VERSION"
                        else if review.checkpointThreadId ≠ settings.checkpointThreadId
                            source.inquiryPublicId review.sourceAiRequestId
                            review.sourceInquiryStateVersion then
                          .error "AI_RESUME_CHECKPOINT_MISMATCH"
                        else
                          match Dict.get analysis "evidence_references" with
                          | .list evidence => do
                              let ids ← canonicalIds evidence
                              if !ids.Nodup then .error "AI_RESUME_EVIDENCE_DUPLICATE"
                              else if source.links.length ≠ ids.length ∨
                                  source.links.any (fun link =>
                                    !link.isVerified || decide (link.run ≠ run.id)) ∨
                                  source.links.map (source.crosswalk ·.chunk) ≠ ids.map some then
                                .error "AI_RESUME_EVIDENCE_BINDING_MISMATCH"
                              else do
                                checkLedger source run
                                pure (resumePayload source (.dict analysis) correlationId,
                                  review.resumeIdempotencyKey)
                          | _ => .error "AI_RESUME_EVIDENCE_INVALID"
                    | _ => .error "AI_RESUME_INPUT_ID_MISMATCH"
              | _ => .error "AI_RESUME_RUN_NOT_VERIFIED"

end

namespace HumanReviewResumeDispatchService
open HumanReviewResumeDispatch

/-! ### The transactions -/

abbrev Rows := List (Stored HumanReviewResumeDispatch)

def byPublicId (rows : Rows) (id : Nat) : Option (Stored HumanReviewResumeDispatch) :=
  rows.find? fun row => decide (row.1.publicId = id)

/-- `full_clean` and `save` of a changed row. -/
def saveRow (rows : Rows) (row : HumanReviewResumeDispatch) : Except Failure Rows := do
  let stored ← save row "ValidationError"
  pure (replaceRow (·.1.publicId) stored rows)

def blankDispatch (id review : Nat) (key : String) (version : Nat) (now : Instant) :
    HumanReviewResumeDispatch where
  publicId := id
  humanReview := review
  idempotencyKey := key
  sourceReviewStateVersion := version
  status := .pending
  attemptCount := 0
  payloadSha256 := ""
  startedAt := none
  completedAt := none
  failureCode := ""
  providerCalls := none
  contextSynthesisStatus := none
  fallbackReason := none
  handoffDeliveryScheduled := none
  idempotentReplay := none
  createdAt := now

/-- `enqueue`, with the row it returns; the review and the key of a row are unique. -/
def enqueue (settings : ResumeSettings) (rows : Rows) (review : Nat) (source : ResumeSource)
    (id : Nat) (now : Instant) : Except Failure (Rows × Nat) :=
  let key := source.review.resumeIdempotencyKey
  let version := source.review.reviewStateVersion
  if !source.review.isOfficialReject then .error (.raised "ValueError")
  else if !isReviewModelApproved settings source then .error (.raised "ValueError")
  else
    match rows.find? fun row => decide (row.1.humanReview = review) with
    | some row =>
        if row.1.idempotencyKey ≠ key ∨ row.1.sourceReviewStateVersion ≠ version then
          .error (.raised "ValueError")
        else .ok (rows, row.1.publicId)
    | none => do
        let row ← save (blankDispatch id review key version now) "IntegrityError"
        if rows.any fun other => decide (other.1.idempotencyKey = key) then
          .error (.raised "IntegrityError")
        else pure (rows ++ [row], id)

/-- `_set_failed_pre_send`. -/
def setFailedPreSend (rows : Rows) (dispatch : HumanReviewResumeDispatch) (failureCode : String)
    (now : Instant) : Except Failure Rows :=
  saveRow rows
    { dispatch with
      status := .failedPreSend
      completedAt := some now
      failureCode := String.ofList (failureCode.toList.take 80) }

/-- A claimed request: the review it is for, its payload, its key and the payload's digest. -/
structure Claim where
  review : Nat
  payload : Value
  idempotencyKey : String
  payloadSha256 : String

/-- `_claim`, under the lock of the row. -/
def claim (settings : ResumeSettings) (rows : Rows) (source : Nat → Option ResumeSource) (id : Nat)
    (now : Instant) : Except Failure (Rows × Option Claim) :=
  match byPublicId rows id with
  | none => .ok (rows, none)
  | some row =>
      if row.1.status ≠ .pending then .ok (rows, none)
      else
        let built : Except String (Value × String) :=
          match source row.1.humanReview with
          | none => .error "AI_RESUME_REVIEW_NOT_FOUND"
          | some found => buildHumanReviewResumePayload settings found
        match built with
        | .error code => (·, none) <$> setFailedPreSend rows row.1 code now
        | .ok (payload, key) =>
            if key ≠ row.1.idempotencyKey then
              (·, none) <$> setFailedPreSend rows row.1
                "AI_RESUME_IDEMPOTENCY_BINDING_MISMATCH" now
            else do
              let digest := settings.payloadSha256 payload
              let written ← saveRow rows
                { row.1 with
                  status := .dispatching
                  attemptCount := 1
                  payloadSha256 := digest
                  startedAt := some now }
              pure (written, some ⟨row.1.humanReview, payload, key, digest⟩)

/-- The outcome of a claimed row; another row, or another payload, is left alone. -/
def mark (rows : Rows) (id : Nat) (digest : String)
    (change : HumanReviewResumeDispatch → HumanReviewResumeDispatch) : Except Failure Rows :=
  match byPublicId rows id with
  | none => .error (.raised "DoesNotExist")
  | some row =>
      if row.1.status ≠ .dispatching ∨ row.1.payloadSha256 ≠ digest then .ok rows
      else saveRow rows (change row.1)

/-- `_mark_outcome_unknown`. -/
def markOutcomeUnknown (rows : Rows) (id : Nat) (digest failureCode : String) (now : Instant) :
    Except Failure Rows :=
  mark rows id digest fun row =>
    { row with
      status := .outcomeUnknown
      completedAt := some now
      failureCode := String.ofList (failureCode.toList.take 80) }

/-- `_mark_succeeded`. -/
def markSucceeded (rows : Rows) (id : Nat) (digest : String) (receipt : HumanReviewResumeReceipt)
    (now : Instant) : Except Failure Rows :=
  mark rows id digest fun row =>
    { row with
      status := .succeeded
      completedAt := some now
      providerCalls := some receipt.providerCalls
      contextSynthesisStatus := some receipt.contextSynthesisStatus
      fallbackReason := receipt.fallbackReason
      handoffDeliveryScheduled := some receipt.handoffDeliveryScheduled
      idempotentReplay := some receipt.idempotentReplay }

/-! ### The workers -/

/-- Where a worker is: at the query of `process_pending`, or in `process_dispatch`. -/
inductive Phase
  | looking
  | called (dispatch : Nat)
  | claimed (dispatch : Nat) (claim : Claim)
  | sent (dispatch : Nat) (claim : Claim)
  | answered (dispatch : Nat) (claim : Claim) (answer : Except String HumanReviewResumeReceipt)
  | finished

/-- A worker with the iterations of `process_pending` that remain, or none of it. -/
structure Worker where
  remaining : Option Nat
  phase : Phase

/-- A request that has gone out. -/
structure Sent where
  dispatch : Nat
  review : Nat
  payload : Value

structure Outbox where
  reviews : Nat → Option ResumeSource
  rows : Rows
  workers : List Worker
  sent : List Sent
  nextId : Nat

/-- The first row in PENDING by `created_at` and `pk`. -/
def firstPending (rows : Rows) : Option Nat :=
  let pending := rows.filter fun row => decide (row.1.status = .pending)
  (pending.argmin fun row => toLex (row.1.createdAt, row.1.publicId)).map (·.1.publicId)

/-- After `process_dispatch` a worker of `process_pending` looks for the next row. -/
def afterwards (worker : Worker) : Worker :=
  match worker.remaining with
  | none | some 0 => { worker with phase := .finished }
  | some (n + 1) => ⟨some n, .looking⟩

/-- What a step meets outside the database: the time, the error that stops a request before
it goes out, and the answer to one that has. -/
structure Outside where
  now : Instant
  unsent : Option String
  answer : Except String HumanReviewResumeReceipt

section
variable (settings : ResumeSettings) (o : Outside) (s : Outbox)

/-- The next step of a worker. An exception that `process_dispatch` lets through ends it. -/
def advance (worker : Worker) : Outbox × Worker :=
  match worker.phase with
  | .looking =>
      match firstPending s.rows with
      | none => (s, { worker with phase := .finished })
      | some id => (s, { worker with phase := .called id })
  | .called id =>
      if !settings.resumeEnabled then (s, afterwards worker)
      else
        match claim settings s.rows s.reviews id o.now with
        | .error _ => (s, { worker with phase := .finished })
        | .ok (rows, none) => ({ s with rows := rows }, afterwards worker)
        | .ok (rows, some claimed) =>
            ({ s with rows := rows }, { worker with phase := .claimed id claimed })
  | .claimed id claimed =>
      match o.unsent with
      | some code => (s, { worker with phase := .answered id claimed (.error code) })
      | none =>
          ({ s with sent := s.sent ++ [⟨id, claimed.review, claimed.payload⟩] },
            { worker with phase := .sent id claimed })
  | .sent id claimed => (s, { worker with phase := .answered id claimed o.answer })
  | .answered id claimed answer =>
      let marked :=
        match answer with
        | .ok receipt => markSucceeded s.rows id claimed.payloadSha256 receipt o.now
        | .error code => markOutcomeUnknown s.rows id claimed.payloadSha256 code o.now
      match marked with
      | .error _ => (s, { worker with phase := .finished })
      | .ok rows => ({ s with rows := rows }, afterwards worker)
  | .finished => (s, worker)

end

/-! ### The system -/

/-- `decide` with REJECT, on a review it finds in PENDING. -/
def rejected (review : ResumeReview) (correlationId : String) : ResumeReview :=
  { review with
    status := .rejected
    decision := some .reject
    decisionCorrelationId := some correlationId
    reviewStateVersion := review.reviewStateVersion + 1 }

/-- `mark_resume_failed` of a review that `isDecided`. -/
def resumeFailed (review : ResumeReview) : ResumeReview :=
  { review with
    status := .resumeFailed
    reviewStateVersion := review.reviewStateVersion + 1 }

def isDecided : ReviewStatus → Bool
  | .approved | .modified | .rejected => true
  | .pending | .resumeFailed => false

/-- `_schedule_rejected_review_resume` in the transaction of the decision; the callback
is a worker of its own. -/
def scheduleRejectedReviewResume (settings : ResumeSettings) (s : Outbox) (review : Nat)
    (source : ResumeSource) (now : Instant) : Except Failure Outbox :=
  let decided := { s with reviews := Function.update s.reviews review (some source) }
  if !settings.resumeEnabled || !isReviewModelApproved settings source then .ok decided
  else do
    let (rows, id) ← enqueue settings s.rows review source s.nextId now
    pure { decided with
      rows := rows, workers := s.workers ++ [⟨none, .called id⟩], nextId := s.nextId + 1 }

inductive Occurrence
  | rejected (review : Nat) (correlationId : String) (now : Instant)
  /-- Other writes: another decision, or anything around a review. -/
  | changed (review : Nat) (source : ResumeSource)
  /-- `mark_resume_failed`; one that is refused writes nothing. -/
  | resumeFailed (review : Nat)
  | processPending (maxRows : Int)
  | processDispatch (dispatch : Nat)
  | turn (worker : Nat) (outside : Outside)
  | crashed (worker : Nat)

def Step (settings : ResumeSettings) (s : Outbox) : Occurrence → Outbox → Prop
  | .rejected review correlationId now, t =>
      ∃ source, s.reviews review = some source ∧ source.review.status = .pending ∧
        scheduleRejectedReviewResume settings s review
          { source with review := rejected source.review correlationId } now = .ok t
  | .changed review source, t =>
      -- a decision asks for PENDING, and `mark_resume_failed` is an occurrence of its own
      (∀ old, s.reviews review = some old → old.review.status ≠ .pending →
        source.review.status = old.review.status ∧ source.review.decision = old.review.decision ∧
          source.review.reviewStateVersion = old.review.reviewStateVersion) ∧
      t = { s with reviews := Function.update s.reviews review (some source) }
  | .resumeFailed review, t =>
      ∃ source, s.reviews review = some source ∧ isDecided source.review.status = true ∧
        t = { s with
          reviews := Function.update s.reviews review
            (some { source with review := resumeFailed source.review }) }
  | .processPending maxRows, t =>
      t = { s with
        workers := s.workers ++
          [if settings.resumeEnabled then ⟨some ((max 1 maxRows).toNat - 1), .looking⟩
            else ⟨none, .finished⟩] }
  | .processDispatch dispatch, t =>
      t = { s with workers := s.workers ++ [⟨none, .called dispatch⟩] }
  | .turn k outside, t =>
      ∃ worker, s.workers[k]? = some worker ∧
        t = { (advance settings outside s worker).1 with
          workers := s.workers.set k (advance settings outside s worker).2 }
  | .crashed k, t =>
      t = { s with workers := s.workers.modify k fun worker => { worker with phase := .finished } }

/-- Nothing has been enqueued and nobody works. -/
def Initial (s : Outbox) : Prop := s.rows = [] ∧ s.workers = [] ∧ s.sent = []

end HumanReviewResumeDispatchService
end WaterCare.Service
