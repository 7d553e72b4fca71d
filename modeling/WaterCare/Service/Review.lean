import WaterCare.Service.Claim

/-!
`human_review_service.py`: a review is created with a pending guidance and decided
once. The decision publishes or rejects the guidance and moves the inquiry by an
event of the system.
-/

namespace WaterCare.Service
open Workflow Store Py
open Engine (validIdempotencyKey Reason)

/-! ### Events of the system -/

/-- The guard context of a trusted internal actor. -/
def systemContext (correlationId : Uuid) (requestedVersion : Nat)
    (domainResults : List (GuardId × Bool)) : GuardContext where
  actorRole := .system
  isAuthenticated := false
  trustedInternalActor := true
  correlationId := correlationId.1
  idempotencyKey := none
  requestedStateVersion := some requestedVersion
  domainResults := domainResults

/-- The history row of an event of the system. -/
def systemHistory (a : Aggregate) (plan : Plan) (correlationId : Uuid) (key : String)
    (changeReason : Option String) (now : Instant) : InquiryHistory where
  actor := .system
  event := plan.rule.event
  fromState := some a.q.status
  toState := plan.rule.target
  stateVersion := plan.version
  correlationId := correlationId.1
  idempotencyKey := key
  changeReason := changeReason
  changedAt := now

namespace HumanReviewService

/-! ### The origin of a required consultation -/

/-- The causes of a ledger in the order of `LEDGER_CAUSE_PRIORITY`, each with its origin,
whose code is also its lock class. -/
def ledgerCauses : List (String × ConsultationOrigin × OriginReason) :=
  [ ("DANGER_ASSESSMENT", .safetyLocked, .dangerAssessment),
    ("EXPLICIT_SAFETY_RULE", .safetyLocked, .explicitSafetyRule),
    ("FAIL_CLOSED_AI_RESULT", .failClosedLocked, .failClosedAiResult),
    ("UNCLASSIFIED_AI_SIGNAL", .unknownLocked, .unclassifiedAiSignal),
    ("HARNESS_UNSUPPORTED_FUNCTION", .nonSafetyResolvable, .harnessUnsupportedFunction),
    ("HARNESS_SCOPE_EXCEEDED", .nonSafetyResolvable, .harnessScopeExceeded) ]

/-- A supported cause with the lock class of its code. -/
def isSupported (cause : LedgerCause) : Bool :=
  (ledgerCauses.lookup cause.causeCode).any fun origin => decide (origin.1.code = cause.lockClass)

/-- `_consultation_origin_from_ledger`. -/
def originFromLedger (causes : List LedgerCause) : ConsultationOrigin × OriginReason :=
  if !causes.isEmpty && causes.all isSupported then
    ((ledgerCauses.find? fun entry => (causes.map (·.causeCode)).contains entry.1).map (·.2)).getD
      (.unknownLocked, .unclassifiedAiSignal)
  else (.unknownLocked, .unclassifiedAiSignal)

def runOf (a : Aggregate) (g : Guidance) : Option AIRun :=
  (g.run.bind fun id => a.runs.find? fun r => decide (r.1.id = id)).map (·.1)

/-- The links of a guidance are there and all verified. -/
def evidenceIsVerified (g : Guidance) : Bool :=
  !g.evidenceLinks.isEmpty && g.evidenceLinks.all (·.isVerified)

/-- A run with a usable result behind verified guidance. -/
def runIsUsable (a : Aggregate) (g : Guidance) : Bool :=
  (runOf a g).any fun run =>
    decide (run.status = .succeeded) && decide (run.schemaStatus = .passed) &&
      g.evidenceSufficiency == "VERIFIED"

/-- `_consultation_origin`. -/
def consultationOrigin (a : Aggregate) (g : Guidance) : ConsultationOrigin × OriginReason :=
  if !g.requiresConsultation then (.notRequired, .notRequired)
  else
    match g.run.bind fun id => a.causeLedgers.find? fun l => decide (l.run = id) with
    | some ledger => originFromLedger ledger.causes
    | none =>
        let safety := ((runOf a g).bind (·.result)).map (·.safetyAssessment)
        if safety.any fun s => decide (s.riskLevel = .danger) then (.safetyLocked, .dangerAssessment)
        else if safety.any fun s => s.matchedSafetyRuleIds.any hasText then
          (.safetyLocked, .explicitSafetyRule)
        else if runIsUsable a g && safety.isSome && evidenceIsVerified g then
          (.unknownLocked, .unclassifiedAiSignal)
        else (.failClosedLocked, .failClosedAiResult)

/-- `create_pending`; the thread of a request and version is unique. -/
def createPending (a : Aggregate) (g : Guidance) (aiRequestId : String) (sourceVersion id : Nat)
    (now : Instant) : Except Failure Aggregate := do
  let origin := consultationOrigin a g
  let row ← save
    { id := id, guidance := g.id, publishedGuidance := none, sourceAiRequestId := aiRequestId
      sourceInquiryStateVersion := sourceVersion, status := .pending, decision := none
      reviewStateVersion := 1, initialReasonCode := "CAUTION_PRE_SEND_REVIEW"
      decisionReasonCode := none, reviewer := none, decidedAt := none
      decisionIdempotencyKey := none, decisionCorrelationId := none, modifiedGuidance := []
      originalRequiresConsultation := g.requiresConsultation
      effectiveRequiresConsultation := g.requiresConsultation, origin := origin.1
      originReason := origin.2, disposition := none, changeReason := none, evidenceSnapshot := []
      createdAt := now, updatedAt := now } "ValidationError"
  if a.reviews.any fun r => decide (r.1.sourceAiRequestId = aiRequestId) &&
      decide (r.1.sourceInquiryStateVersion = sourceVersion) then
    .error (.raised "ValidationError")
  else pure { a with reviews := a.reviews ++ [row] }

/-! ### The decision -/

structure ModifiedGuidanceItem where
  instructionText : String
  cautionText : Option (Option String)
  requiresConfirmation : Bool

structure ModifiedGuidance where
  title : String
  summaryText : String
  safetyNotice : Option (Option String)
  items : List ModifiedGuidanceItem

structure DecisionValues where
  decision : ReviewDecision
  reviewStateVersion : Nat
  reasonCode : Option String
  modifiedGuidance : Option ModifiedGuidance
  disposition : Disposition
  consultationReasonCode : Option ChangeReason
  consultationEvidenceIds : Option (List Nat)

def entry (key : String) (value : Option Value) : List (String × Value) :=
  value.elim [] fun v => [(key, v)]

namespace ModifiedGuidance

def itemDocument (item : ModifiedGuidanceItem) : Value :=
  mapping <| [("instruction_text", .str item.instructionText),
      ("requires_confirmation", .bool item.requiresConfirmation)] ++
    entry "caution_text" (item.cautionText.map .ofOption)

def document (modified : ModifiedGuidance) : Dict :=
  dictOf <| [("title", .str modified.title), ("summary_text", .str modified.summaryText),
      ("items", .list (modified.items.map itemDocument))] ++
    entry "safety_notice" (modified.safetyNotice.map .ofOption)

end ModifiedGuidance

def DecisionValues.body (values : DecisionValues) : Value :=
  mapping <| [("decision", .str values.decision.code),
      ("review_state_version", natural values.reviewStateVersion),
      ("consultation_disposition", .str values.disposition.code)] ++
    entry "reason_code" (values.reasonCode.map .str) ++
    entry "modified_guidance" (values.modifiedGuidance.map fun m => .dict m.document) ++
    entry "consultation_reason_code" (values.consultationReasonCode.map fun r => .str r.code) ++
    entry "consultation_evidence_ids"
      (values.consultationEvidenceIds.map fun ids => .list (ids.map publicId))

/-- `visible_to`. -/
def visibleTo (settings : Settings) (d : Directory) (actor : User) (q : Inquiry) : Bool :=
  (decide (q.assignedUser = some actor.id) ||
      q.assignedUser.isNone && decide (q.assignedRole = .none)) &&
    ((d.user q.initiatedBy).any (·.isSynthetic)) &&
    (d.subscription q.subscription).any fun s =>
      decide (P1TeamConsultantRouting.assignedContract settings actor = some s.contractNo) ||
        !P1TeamConsultantRouting.isReserved s.contractNo

/-- `_raise_state_conflict`. -/
def stateConflict (review : HumanReview) : Failure :=
  .business "STATE-CONFLICT-01" "다른 검토 결정이 먼저 반영되었습니다."
    (dictOf [("current_status", .str review.status.code),
      ("current_review_state_version", natural review.reviewStateVersion),
      ("allowed_actions",
        texts (if review.status = .pending then ["DECIDE_HUMAN_REVIEW"] else []))]) 409

/-- `_raise_consultation_validation`. -/
def consultationValidation (message : String) : Failure :=
  .business "VALIDATION_ERROR" message [] 422

def consultationLocked (message : String) (review : HumanReview) : Failure :=
  .business "HUMAN_REVIEW_CONSULTATION_LOCKED" message
    (dictOf [("consultation_origin", .str review.origin.code)]) 422

/-- `_verified_evidence`. -/
def verifiedEvidence (g : Guidance) : List EvidenceLink :=
  if evidenceIsVerified g then
    sorted (fun p q => decide (p.displayOrder ≤ q.displayOrder)) g.evidenceLinks
  else []

/-- `_evidence_ready`. -/
def evidenceReady (a : Aggregate) (g : Guidance) : Bool :=
  !(verifiedEvidence g).isEmpty && runIsUsable a g

/-- What `_consultation_audit` returns. -/
structure ConsultationAudit where
  effectiveRequiresConsultation : Bool
  disposition : Disposition
  reason : Option ChangeReason
  evidenceSnapshot : List EvidenceLink

/-- The reasons that may raise the need for a consultation. -/
def isEscalation : ChangeReason → Bool
  | .consultantSafetyEscalation | .productFunctionUncertain | .customerContextIncomplete => true
  | .productCapabilityVerified | .harnessScopeVerified | .humanReviewRejected => false

/-- The reasons that may resolve it. -/
def isResolution : ChangeReason → Bool
  | .productCapabilityVerified | .harnessScopeVerified => true
  | .consultantSafetyEscalation | .productFunctionUncertain | .customerContextIncomplete
  | .humanReviewRejected => false

/-- The guidance of the run restricts the use of the product. -/
def isRestricted (a : Aggregate) (g : Guidance) : Bool :=
  ((runOf a g).bind (·.result)).any fun output =>
    decide (output.usageGuidance.guidanceStatus = .partialStop) ||
      decide (output.usageGuidance.guidanceStatus = .totalStop)

/-- `_consultation_audit`. -/
def consultationAudit (a : Aggregate) (review : HumanReview) (g : Guidance)
    (values : DecisionValues) : Except Failure ConsultationAudit :=
  let evidenceIds := values.consultationEvidenceIds.getD []
  if values.decision = .reject then
    if values.disposition ≠ .preserve ∨ values.consultationReasonCode.isSome ∨ evidenceIds ≠ [] then
      .error (consultationValidation "REJECT 결정의 상담 전환은 Backend 정책으로 확정됩니다.")
    else .ok ⟨true, .require, some .humanReviewRejected, []⟩
  else
    match values.disposition with
    | .preserve =>
        if values.consultationReasonCode.isSome ∨ evidenceIds ≠ [] then
          .error (consultationValidation "PRESERVE 결정에는 상담 변경 사유나 Evidence가 없습니다.")
        else .ok ⟨review.originalRequiresConsultation, .preserve, none, []⟩
    | .require =>
        if review.originalRequiresConsultation then
          .error (consultationValidation "이미 상담이 필요한 건은 PRESERVE로 결정해 주세요.")
        else if !values.consultationReasonCode.any isEscalation then
          .error (consultationValidation "상담 필요 상향에 허용된 사유 코드가 필요합니다.")
        else if evidenceIds ≠ [] then
          .error (consultationValidation "상담 필요 상향에는 해소 Evidence를 제출하지 않습니다.")
        else .ok ⟨true, .require, values.consultationReasonCode, []⟩
    | .resolveNonSafety =>
        if review.origin ≠ .nonSafetyResolvable then
          .error (consultationLocked
            "Safety 또는 미분류 사유의 상담 필요 상태는 해소할 수 없습니다." review)
        else if !review.originalRequiresConsultation then
          .error (consultationValidation "원본 상담 여부가 true인 경우에만 해소할 수 있습니다.")
        else if !values.consultationReasonCode.any isResolution then
          .error (consultationValidation "비-Safety 상담 해소에 허용된 사유 코드가 필요합니다.")
        else if !isRestricted a g then
          .error (consultationLocked
            "검증된 제한 사용 상태가 없어 상담 필요를 해소할 수 없습니다." review)
        else if evidenceIds = [] then
          .error (consultationValidation "상담 해소에는 검증 Evidence가 최소 1개 필요합니다.")
        else
          match evidenceIds.mapM fun id =>
              (verifiedEvidence g).find? fun link => decide (link.id = id) with
          | none =>
              .error (consultationValidation
                "선택한 Evidence가 검토 Guidance의 검증 근거가 아닙니다.")
          | some selected =>
              .ok ⟨false, .resolveNonSafety, values.consultationReasonCode, selected⟩

/-- `_event_code`. -/
def eventCode (decision : ReviewDecision) (effectiveRequiresConsultation : Bool) : EventCode :=
  if decision = .reject then .humanReviewRejected
  else if effectiveRequiresConsultation then .humanReviewConsultationRequired
  else .humanReviewGuidanceApproved

def transitionConflict (q : Inquiry) : Failure :=
  .business "STATE-CONFLICT-01" "문의 상태가 변경되어 검토 결정을 반영할 수 없습니다."
    (dictOf [("current_status", .str q.status.code),
      ("current_state_version", natural q.stateVersion)]) 409

/-- The domain results of `_review_transition`. -/
def reviewResults (decision : ReviewDecision) (ready effectiveRequiresConsultation : Bool) :
    List (GuardId × Bool) :=
  [ (.humanReviewGuidanceApproved,
      decide (decision ≠ .reject) && !effectiveRequiresConsultation && ready),
    (.humanReviewConsultationRequired,
      decide (decision ≠ .reject) && effectiveRequiresConsultation && ready),
    (.humanReviewRejected, decide (decision = .reject)) ]

/-- `_review_transition`. -/
def reviewTransition (a : Aggregate) (event : EventCode) (correlationId : Uuid)
    (results : List (GuardId × Bool)) : Except Failure Plan :=
  match shipped.resolve a.snapshot event with
  | .error reason =>
      .error (if [Reason.terminalState, .unlistedTransition, .visitStateMismatch].contains reason
        then transitionConflict a.q
        else .internalError "검토 상태 전환 계약을 확인할 수 없습니다.")
  | .ok plan =>
      match shipped.evaluate plan.rule a.snapshot
          (systemContext correlationId a.q.stateVersion results) with
      | none => .ok plan
      | some failure =>
          .error (if failure.guardId = .contract .stateVersion then transitionConflict a.q
            else passedOn (fun _ => []) failure)

/-! ### The writes of a decision -/

/-- `_guidance_projection`. -/
def guidanceProjection (g : Guidance) : Value :=
  mapping
    [("guidance_id", publicId g.id), ("guidance_version", natural g.guidanceVersion),
      ("title", .str g.title), ("summary_text", .str g.summaryText),
      ("safety_notice", .ofOption g.safetyNotice),
      ("requires_consultation", .bool g.requiresConsultation),
      ("items", .list ((sorted (fun p q => decide (p.stepNo ≤ q.stepNo)) g.items).map fun item =>
        mapping [("step_no", natural item.stepNo), ("instruction_text", .str item.instructionText),
          ("caution_text", .ofOption item.cautionText),
          ("requires_confirmation", .bool item.requiresConfirmation)]))]

def guidanceOf (a : Aggregate) (id : Nat) : Option (Stored Guidance) :=
  a.guidances.find? fun g => decide (g.1.id = id)

/-- `_projection`. -/
def projection (d : Directory) (a : Aggregate) (review : HumanReview) (g : Guidance) : Dict :=
  dictOf
    [("review_id", publicId review.id), ("inquiry_id", publicId a.q.id),
      ("inquiry_status", .str a.q.status.code),
      ("inquiry_state_version", natural a.q.stateVersion),
      ("model_code", .ofOption ((d.subscription a.q.subscription).map (·.modelCode))),
      ("status", .str review.status.code), ("decision", .ofOption (review.decision.map (·.code))),
      ("review_state_version", natural review.reviewStateVersion),
      ("source_inquiry_state_version", natural review.sourceInquiryStateVersion),
      ("reason_code", .str review.initialReasonCode),
      ("decision_reason_code", .ofOption review.decisionReasonCode),
      ("consultation_origin", .str review.origin.code),
      ("consultation_origin_reason", .str review.originReason.code),
      ("original_requires_consultation", .bool review.originalRequiresConsultation),
      ("effective_requires_consultation", .bool review.effectiveRequiresConsultation),
      ("consultation_disposition", .ofOption (review.disposition.map (·.code))),
      ("consultation_reason_code", .ofOption (review.changeReason.map (·.code))),
      ("can_resolve_consultation",
        .bool (decide (review.status = .pending) && review.originalRequiresConsultation &&
          decide (review.origin = .nonSafetyResolvable))),
      ("verified_evidence_ids",
        .list ((g.evidenceLinks.filter (·.isVerified)).map fun link => publicId link.id)),
      ("proposed_guidance", guidanceProjection g),
      ("published_guidance", optional (fun g => guidanceProjection g.1)
        (review.publishedGuidance.bind (guidanceOf a))),
      ("allowed_actions",
        texts (if review.status = .pending then ["DECIDE_HUMAN_REVIEW"] else [])),
      ("created_at", isoformat review.createdAt), ("updated_at", isoformat review.updatedAt)]

/-- The original guidance with the outcome of its review. -/
def reviewed (g : Guidance) (status : String) (actor : Nat) (now : Instant) : Guidance :=
  { g with reviewStatus := status, reviewedBy := some actor, reviewedAt := some now }

/-- `Max("guidance_version")` or zero. -/
def lastGuidanceVersion (a : Aggregate) : Nat :=
  (a.guidances.map (·.1.guidanceVersion)).foldr max 0

/-- The items of the published copy, numbered anew. -/
def publishedItems (id : Nat) (g : Guidance) : Option ModifiedGuidance → List GuidanceItem
  | some modified => modified.items.mapIdx fun i item =>
      ⟨id + i, i + 1, "NEXT_ACTION", item.instructionText, item.cautionText.join,
        item.requiresConfirmation⟩
  | none => (sorted (fun p q => decide (p.stepNo ≤ q.stepNo)) g.items).mapIdx fun i item =>
      { item with id := id + i, stepNo := i + 1 }

/-- The published copy of a guidance. -/
def published (a : Aggregate) (g : Guidance) (modified : Option ModifiedGuidance)
    (effectiveRequiresConsultation : Bool) (actor id : Nat) (now : Instant) : Guidance :=
  let items := publishedItems (id + 1) g modified
  { id := id
    guidanceVersion := lastGuidanceVersion a + 1
    reviewStatus := "APPROVED"
    title := modified.elim g.title (·.title)
    summaryText := modified.elim g.summaryText (·.summaryText)
    safetyNotice := modified.elim g.safetyNotice (·.safetyNotice.join)
    evidenceSufficiency := g.evidenceSufficiency
    requiresConsultation := effectiveRequiresConsultation
    run := g.run
    reviewedBy := some actor
    reviewedAt := some now
    items := items
    evidenceLinks := (verifiedEvidence g).mapIdx fun i link =>
      { link with id := id + 1 + items.length + i } }

/-- `_apply_guidance_decision`: the guidance that is shown, if any. -/
def applyGuidanceDecision (a : Aggregate) (g : Guidance) (values : DecisionValues)
    (effectiveRequiresConsultation : Bool) (actor id : Nat) (now : Instant) :
    Except Failure (Aggregate × Option Nat) := do
  if values.decision = .approve ∧ g.requiresConsultation = effectiveRequiresConsultation then
    let row ← save (reviewed g "APPROVED" actor now) "ValidationError"
    pure ({ a with guidances := replaceRow (·.1.id) row a.guidances }, some g.id)
  else
    let row ← save (reviewed g "REJECTED" actor now) "ValidationError"
    let rejected := { a with guidances := replaceRow (·.1.id) row a.guidances }
    if values.decision = .reject then pure (rejected, none)
    else if values.decision = .modify ∧ values.modifiedGuidance.isNone then
      .error (.raised "TypeError")
    else
      let copy ← save
        (published rejected g
          (if values.decision = .modify then values.modifiedGuidance else none)
          effectiveRequiresConsultation actor id now) "ValidationError"
      pure ({ rejected with guidances := rejected.guidances ++ [copy] }, some id)

/-- The review with its decision. -/
def decided (review : HumanReview) (values : DecisionValues) (audit : ConsultationAudit)
    (publishedGuidance : Option Nat) (request : Request) : HumanReview :=
  { review with
    status :=
      match values.decision with
      | .approve => .approved
      | .modify => .modified
      | .reject => .rejected
    decision := some values.decision
    reviewStateVersion := review.reviewStateVersion + 1
    decisionReasonCode := some (values.reasonCode.getD "APPROVED_AS_IS")
    reviewer := some request.actor.id
    decidedAt := some request.now
    decisionIdempotencyKey := some request.idempotencyKey.1
    decisionCorrelationId := some request.correlationId
    modifiedGuidance := values.modifiedGuidance.elim [] (·.document)
    publishedGuidance := publishedGuidance
    effectiveRequiresConsultation := audit.effectiveRequiresConsultation
    disposition := some audit.disposition
    changeReason := audit.reason
    evidenceSnapshot := audit.evidenceSnapshot
    updatedAt := request.now }

/-- The consultation of a decision that needs one. -/
def requestIfRequired (d : Directory) (request : Request) (a : Aggregate) (plan : Plan)
    (id : Nat) : Except Failure Aggregate := do
  if plan.rule.event = .humanReviewGuidanceApproved then pure a
  else
    let (requested, consultation) ← ConsultationRepository.request d a (request.stamp plan)
      (ConsultationRepository.lockLatest a) id request.now
    let (attached, _) ←
      ConsultationHandoffRepository.attachToLatestConsultation requested consultation
    pure attached

/-- The identifiers a decision may use, counted from the first. -/
def identifiers (g : Guidance) (values : DecisionValues) : Nat :=
  2 + (values.modifiedGuidance.elim g.items.length (·.items.length)) + g.evidenceLinks.length

/-- The writes of `decide`. -/
def write (d : Directory) (request : Request) (values : DecisionValues) (a : Aggregate)
    (review : HumanReview) (g : Guidance) (audit : ConsultationAudit) (plan : Plan) (id : Nat) :
    Except Failure (Aggregate × HumanReview) := do
  let (applied, shown) ← applyGuidanceDecision a g values audit.effectiveRequiresConsultation
    request.actor.id (id + 1) request.now
  let row ← save (decided review values audit shown request) "ValidationError"
  let requested ← requestIfRequired d request
    { applied with reviews := replaceRow (·.1.id) row applied.reviews } plan id
  let inquiry ← save (applyStateTransition plan requested.q) "IntegrityError"
  let moved := { requested with inquiry := inquiry }
  let recorded ←
    if plan.rule.recordBusinessEvent then
      moved.recordHistory (systemHistory a plan request.correlationId request.idempotencyKey.1
        (some (row.1.decisionReasonCode.getD "" ++ " | review=" ++ toString review.id))
        request.now)
    else pure moved
  pure (recorded, row.1)

/-- The review can still be decided with the versions it was made for. -/
def isDecidable (q : Inquiry) (review : HumanReview) (values : DecisionValues) : Bool :=
  decide (review.status = .pending) &&
    decide (review.reviewStateVersion = values.reviewStateVersion) &&
    decide (q.status = .questionnaireInProgress) &&
    decide (q.stateVersion = review.sourceInquiryStateVersion)

/-- `list_pending`, beside the filter of `visible_to`. -/
def isListed (q : Inquiry) (review : HumanReview) : Bool :=
  decide (review.status = .pending) && decide (q.status = .questionnaireInProgress) &&
    decide (review.sourceInquiryStateVersion = q.stateVersion)

/-- `decide` on the locked review and inquiry, after the replay check. -/
def execute (settings : Settings) (request : Request) (reviewId : Nat) (values : DecisionValues)
    (inquiry : Nat) (a : Aggregate) (review : HumanReview) (w : World) :
    Except Failure (World × Answer) := do
  let requestHash := settings.canonicalRequestHash
    (normalizedRequest [("review_id", publicId reviewId)] values.body reviewId)
  if !isDecidable a.q review values then .error (stateConflict review)
  else
    match guidanceOf a review.guidance with
    | none => .error (.raised "DoesNotExist")
    | some g =>
        let audit ← consultationAudit a review g.1 values
        let plan ← reviewTransition a
          (eventCode values.decision audit.effectiveRequiresConsultation) request.correlationId
          (reviewResults values.decision (evidenceReady a g.1)
            audit.effectiveRequiresConsultation)
        w.withIdempotencyRecord (request.scope .decideHumanReview) requestHash fun pending => do
          let (written, row) ← write w.directory request values a review g.1 audit plan w.nextId
          let body := assign (projection w.directory written row
            (((guidanceOf written review.guidance).map (·.1)).getD g.1))
            (.str "idempotent_replay") (.bool false)
          pure (pending.commit inquiry written (request.scope .decideHumanReview) requestHash 200 body
            reviewId request.now (identifiers g.1 values))

/-- The visible review with its inquiry. -/
def lockVisible (settings : Settings) (actor : User) (reviewId : Nat) (w : World) :
    Option (Nat × Aggregate × HumanReview) := do
  let inquiry ← w.ownerOf fun a => a.reviews.any fun r => decide (r.1.id = reviewId)
  let a ← w.aggregate inquiry
  let review ← a.reviews.find? fun r => decide (r.1.id = reviewId)
  if visibleTo settings w.directory actor a.q then some (inquiry, a, review.1) else none

/-- `decide`. -/
def decideHumanReview (settings : Settings) (request : Request) (reviewId : Nat) (values : DecisionValues)
    (w : World) : Except Failure (World × Answer) :=
  match lockVisible settings request.actor reviewId w with
  | none => .error .notFound
  | some (inquiry, a, review) =>
      match w.records.lookup (request.scope .decideHumanReview) with
      | some existing => w.replay existing (settings.canonicalRequestHash
          (normalizedRequest [("review_id", publicId reviewId)] values.body reviewId))
      | none => execute settings request reviewId values inquiry a review w

/-- `mark_resume_failed`. -/
def markResumeFailed (a : Aggregate) (review : HumanReview) (now : Instant) :
    Except Failure Aggregate :=
  match review.status with
  | .approved | .modified | .rejected => do
      let row ← save
        { review with
          status := .resumeFailed
          reviewStateVersion := review.reviewStateVersion + 1
          updatedAt := now } "ValidationError"
      pure { a with reviews := replaceRow (·.1.id) row a.reviews }
  | .pending | .resumeFailed => .error (stateConflict review)

end HumanReviewService
end WaterCare.Service
