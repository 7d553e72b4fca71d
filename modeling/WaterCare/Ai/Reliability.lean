import WaterCare.Ai.Clarification
import WaterCare.Ai.Harness

/-!
`ReliabilityRuntime.run`: the harness over the context that a pipeline leaves, with one retry of
the retrieval, one of the generation, and the route of the final decision. What the search
service, the language model, the clock and the agents downstream do is given from outside, call
by call.
-/

namespace WaterCare.Ai.Reliability
open Store Analysis Machine Py Harness Clarification

/-! ### What happens outside -/

/-- What a stage or an agent raises: the time of a stage is over, the request is cancelled, a
retrieval tool failed, or any other exception. -/
inductive Failure
  | stageTimeout (stage : String)
  | cancelled
  | toolError (kind : Option ToolFailureKind) (retryable : Bool)
  | raised (retryable : Bool)
  deriving DecidableEq, Repr

/-- What the filters of the retrieval stage leave, by how far they come: the topic filter, the gate
of the condition with the selection of the scenario, and the making of the references. -/
inductive Selection
  | unfiltered (failure : Failure)
  | unselected (failure : Failure)
  | unreferenced (reasons : List String) (failure : Failure)
  | selected (reasons : List String) (references : List String)
  deriving DecidableEq, Repr

def Selection.references : Selection → Except Failure (List String)
  | unfiltered failure | unselected failure | unreferenced _ failure => .error failure
  | selected _ references => .ok references

/-- What the guidance generator takes over of an answer, and the metadata of the call. -/
structure Written where
  message : String
  nextActions : List String
  modelName : String
  tokensUsed : Nat
  deriving DecidableEq, Repr

/-- How the guidance generator ends, and whether it called the language model again. -/
structure Generation where
  retried : Bool
  result : Except Failure Written
  deriving DecidableEq, Repr

/-- The outside, by the number of the call. -/
structure Outside where
  /-- `raise_if_cancelled` and `wait`. -/
  token : Nat → Option Failure
  /-- The text that `RetrievalContextBuilder` makes of the symptom of the context. -/
  queryText : String
  /-- The condition that the gate of the evidence reads out of the answers of the context. -/
  applicability : Option EvidenceApplicability
  /-- The search of the service behind the guard. -/
  search : Nat → Except Failure (List RetrievedChunk)
  select : Nat → List RetrievedChunk → Selection
  /-- The guidance generator. -/
  write : Nat → Generation
  /-- The message that the phrase validator puts in the place of another. -/
  sanitize : Nat → Option String
  /-- The validator of the guidance. -/
  validate : Nat → Option Failure
  /-- The start of a review and the making of a handoff. -/
  agent : Nat → Option Failure

/-! ### The state -/

inductive RetrievalOutcome
  | notRun
  | available
  | noMatch
  deriving DecidableEq, Repr

/-- `ModelMetadata`, without the latency. -/
structure ModelMetadata where
  modelName : String
  promptVersion : String
  tokensUsed : Option Nat
  deriving DecidableEq, Repr

/-- The default of `model_metadata`. -/
def ModelMetadata.default : ModelMetadata := ⟨"single-rag-pipeline-v1", "v1", none⟩

/-- `PROMPT_VERSION`. -/
def promptVersion : String := "customer_guidance/v4"

/-- `PipelineContext`, with the fields that the stages of the runtime read and write. The references
are given by their chunks. -/
structure Context where
  safetyAssessment : Option SafetyAssessment
  usageGuidance : Option UsageGuidance
  evidenceReferences : List String
  retrievalOutcome : RetrievalOutcome
  awaitingCustomerInput : Bool
  retryCount : Nat
  evidenceApplicability : Option EvidenceApplicability
  retrievalQueryText : Option String
  evidenceSelectionReasons : List String
  modelMetadata : ModelMetadata
  deriving DecidableEq, Repr

/-- What the filters write into a context. -/
def Selection.write (applicability : Option EvidenceApplicability) (ctx : Context) :
    Selection → Context
  | unfiltered _ => ctx
  | unselected _ => { ctx with evidenceApplicability := applicability }
  | unreferenced reasons _ | selected reasons _ =>
      { ctx with evidenceApplicability := applicability, evidenceSelectionReasons := reasons }

/-- `GuardedEvidenceSearchService`. -/
structure Capture where
  forwarded : List RetrievedChunk
  rejected : List RetrievedChunk
  allRejected : List RetrievedChunk
  deriving DecidableEq, Repr

inductive RoutingReason
  | failClosedConsultation
  | dangerHandoff
  | harnessEscalate
  deriving DecidableEq, Repr

/-- What a handoff is made of, apart from the context. -/
structure Handoff where
  reason : String
  routingReason : RoutingReason
  acceptedEvidenceChunkIds : List String
  deriving DecidableEq, Repr

/-- `HumanReviewRequest`, without the ids of the run. -/
structure Review where
  modelCode : List Char
  productFamily : ProductFamily
  reviewReason : String
  verificationIssueCodes : List IssueCode
  evidenceChunkIds : List String
  proposedGuidance : UsageGuidance
  deriving DecidableEq, Repr

/-- The state of a run: the context, the capture, the calls so far, the stages that were executed
and the reviews and handoffs that were made. -/
structure State where
  ctx : Context
  capture : Capture
  calls : Nat
  retrievals : Nat
  generations : Nat
  reviews : List Review
  handoffs : List Handoff
  deriving DecidableEq, Repr

/-- The state in which `run` is called. -/
def State.start (ctx : Context) (capture : Capture) : State := ⟨ctx, capture, 0, 0, 0, [], []⟩

/-- How a step ends, and the state it leaves. -/
abbrev Step (α : Type) := State → Except Failure α × State

/-- One step after another, as long as none raises. -/
def Step.andThen {α β : Type} (first : Step α) (next : α → Step β) : Step β := fun s =>
  match first s with
  | (.error failure, s) => (.error failure, s)
  | (.ok a, s) => next a s

/-- A call of the outside. -/
def call {α : Type} (answer : Nat → Except Failure α) : Step α := fun s =>
  (answer s.calls, { s with calls := s.calls + 1 })

def callUnit (answer : Nat → Option Failure) : Step Unit :=
  call fun n => match answer n with
    | none => .ok ()
    | some failure => .error failure

def update (f : State → State) : Step Unit := fun s => (.ok (), f s)

def updateContext (f : Context → Context) : Step Unit := update fun s => { s with ctx := f s.ctx }

/-- The search service of a run. -/
inductive Service
  | guarded
  | direct
  deriving DecidableEq, Repr

/-- What `run` is called with, apart from the context. -/
structure Args where
  product : ProductContext
  /-- Whether the guard is the `evidence_capture` of the run. -/
  captured : Bool
  service : Option Service
  requiredFunctions : List (List Char)
  output : Output
  toolFailure : Option ToolFailure

section Stages
variable (u : Unicode) (config : SafetyRules) (o : Outside) (a : Args)

/-! ### The stages -/

/-- `search` of the guard. -/
def guardedSearch : Step (List RetrievedChunk) := fun s =>
  if !a.product.runtimeApproved then (.ok [], s)
  else
    match call o.search s with
    | (.error failure, s) => (.error failure, s)
    | (.ok chunks, s) =>
        let expected := normalizeModelCode u (some a.product.modelCode)
        let (forwarded, rejected) := chunks.partition fun chunk =>
          a.product.productFamily != .unknown && chunk.approved &&
            normalizeModelCode u chunk.modelCode == expected
        (.ok forwarded, { s with capture := ⟨s.capture.forwarded ++ forwarded,
          s.capture.rejected ++ rejected, s.capture.allRejected ++ rejected⟩ })

def searchWith (service : Service) : Step (List RetrievedChunk) :=
  match service with
  | .guarded => guardedSearch u o a
  | .direct => call o.search

/-- The filters over what a search found. -/
def filterEvidence (chunks : List RetrievedChunk) : Step (List String) := fun s =>
  let selection := o.select s.calls chunks
  (selection.references,
    { s with calls := s.calls + 1, ctx := selection.write o.applicability s.ctx })

/-- One attempt of the retrieval. -/
def attempt (service : Service) : Step (List String) :=
  (callUnit o.token).andThen fun _ => (searchWith u o a service).andThen fun chunks =>
    filterEvidence o chunks

/-- The loop over the attempts: one retry, of an exception that allows it. -/
def attempts (service : Service) : Nat → Step (List String)
  | 0, s => attempt u o a service s
  | n + 1, s =>
      match attempt u o a service s with
      | (.error (.raised true), s) =>
          ((callUnit o.token).andThen fun _ =>
            (updateContext fun ctx => { ctx with retryCount := max ctx.retryCount 1 }).andThen
              fun _ => attempts service n) s
      | other => other

/-- The text of the query is kept. -/
def queried (s : State) : State :=
  { s with
    retrievals := s.retrievals + 1
    ctx := { s.ctx with retrievalQueryText := some o.queryText } }

/-- The references are kept. -/
def keepReferences (references : List String) : Step Unit :=
  updateContext fun ctx => { ctx with
    evidenceReferences := references
    retrievalOutcome := if references.isEmpty then .noMatch else .available }

/-- `execute_retrieval_stage`. A `RetrievalQuery` is not empty. -/
def retrievalStage : Step Unit := fun s =>
  match a.service with
  | none => (.error (.raised false), queried o s)
  | some service =>
      if o.queryText = "" then (.error (.raised false), queried o s)
      else ((attempts u o a service 1).andThen keepReferences) (queried o s)

/-- `NoEvidencePolicy.apply_to_assessment`, for a reason that is a text. -/
def noEvidenceAssessment (safety : SafetyAssessment) : Except RuleFault SafetyAssessment := do
  if safety.riskLevel == .danger then return safety
  let risk ← SafetyRules.item config.noEvidencePolicy "default_risk_level" >>= SafetyRules.riskLevelOf
  let priority ← SafetyRules.item config.noEvidencePolicy "default_priority" >>= SafetyRules.priorityOf
  let consultation ← SafetyRules.item config.noEvidencePolicy "requires_consultation"
  let reason ← SafetyRules.item config.noEvidencePolicy "safety_reason"
  return { safety with
    riskLevel := risk
    priority := priority
    requiresConsultation := consultation.isTrue
    safetyReason := reason.asStr?.getD "" }

/-- `determine_assessment_and_guidance`. -/
def assessmentAndGuidance (safety : SafetyAssessment) (hasEvidence : Bool) :
    Except RuleFault (SafetyAssessment × UsageGuidance) := do
  if !hasEvidence && safety.riskLevel != .danger then
    return (← noEvidenceAssessment config safety, ← SafetyRules.applyNoEvidence config.noEvidencePolicy)
  else return (safety, ← config.determineGuidance safety hasEvidence)

/-- `CustomerGuidanceGenerator.generate`: the status and the restrictions of the deterministic
guidance are kept. -/
def generateGuidance (guidance : UsageGuidance) : Step UsageGuidance := fun s =>
  let generation := o.write s.calls
  let s := { s with calls := s.calls + 1 }
  let s := if generation.retried then
    { s with ctx := { s.ctx with retryCount := max s.ctx.retryCount 1 } } else s
  match generation.result with
  | .error failure => (.error failure, s)
  | .ok written =>
      (.ok { guidance with message := written.message, nextActions := written.nextActions },
        { s with ctx := { s.ctx with
          modelMetadata := ⟨written.modelName, promptVersion, some written.tokensUsed⟩ } })

/-- `execute_generation_stage`. -/
def generationStage : Step Unit := fun s =>
  let s := { s with generations := s.generations + 1 }
  let hasEvidence := !s.ctx.evidenceReferences.isEmpty
  match s.ctx.safetyAssessment.map fun safety => assessmentAndGuidance config safety hasEvidence with
  | some (.ok (safety, guidance)) =>
      let s := { s with ctx := { s.ctx with safetyAssessment := some safety } }
      if safety.riskLevel == .danger || !hasEvidence then
        updateContext (fun ctx => { ctx with usageGuidance := some guidance }) s
      else
        ((generateGuidance o guidance).andThen fun written => updateContext fun ctx =>
          { ctx with usageGuidance := some written }) s
  | _ => (.error (.raised false), s)

/-- `execute_validation_stage`. -/
def validationStage : Step Unit := fun s =>
  match s.ctx.usageGuidance with
  | some guidance =>
      if guidance.message = "" then (.ok (), s)
      else
        ((call fun n => .ok ((o.sanitize n).getD guidance.message)).andThen fun message =>
          (updateContext fun ctx =>
            { ctx with usageGuidance := some { guidance with message := message } }).andThen
              fun _ => callUnit o.validate) s
  | none => (.ok (), s)

/-- `deadline_scope`: the token is looked at before and after. -/
def deadlineScope (body : Step Unit) : Step Unit :=
  (callUnit o.token).andThen fun _ => body.andThen fun _ => callUnit o.token

/-- `_retry_generation`. -/
def retryGeneration : Step Unit :=
  (callUnit o.token).andThen fun _ =>
    (updateContext fun ctx => { ctx with retryCount := 1 }).andThen fun _ =>
      (deadlineScope o (generationStage config o)).andThen fun _ =>
        deadlineScope o (validationStage o)

/-- `begin_attempt`. -/
def beginAttempt : Step Unit := update fun s =>
  if a.captured then { s with capture := ⟨[], [], s.capture.allRejected⟩ } else s

/-- `_retry_retrieval`: with new evidence the guidance is generated again. -/
def retryRetrieval : Step Unit :=
  (callUnit o.token).andThen fun _ => (beginAttempt a).andThen fun _ =>
    (updateContext fun ctx => { ctx with retryCount := 1 }).andThen fun _ =>
      (deadlineScope o (retrievalStage u o a)).andThen fun _ => fun s =>
        if s.ctx.evidenceReferences.isEmpty then (.ok (), s) else retryGeneration config o s

end Stages

/-! ### The route of a decision -/

/-- `HarnessRuntimeResult`. -/
structure RuntimeResult where
  harness : HarnessResult
  humanReview : Option Review
  handoff : Option Handoff
  deriving DecidableEq, Repr

def isDanger (ctx : Context) : Bool := ctx.safetyAssessment.any (·.riskLevel == .danger)

/-- `_uses_retrieving_failure_stage`. -/
def usesRetrievingFailureStage (ctx : Context) : Bool :=
  ctx.retrievalOutcome == .noMatch && ctx.evidenceReferences.isEmpty &&
    !ctx.awaitingCustomerInput &&
    ctx.usageGuidance.any (·.guidanceStatus == .pendingConsultation)

/-- `_context_routing_reason`. -/
def contextRoutingReason (ctx : Context) (reason : String) : RoutingReason :=
  if ["RUNTIME_PRODUCT_NOT_APPROVED", "AI_PROCESSING_TIMEOUT", "HUMAN_REVIEW_REJECTED"].contains reason
  then .failClosedConsultation
  else if isDanger ctx then .dangerHandoff
  else if reason = "NO_EVIDENCE" then .failClosedConsultation
  else if ["MCP_TOOL_FAILURE", "OUTPUT_SCHEMA_INVALID", "UNSPECIFIED_FALLBACK"].contains reason &&
      usesRetrievingFailureStage ctx then .failClosedConsultation
  else .harnessEscalate

/-- `_safe_blocking_guidance`. -/
def safeBlockingGuidance (ctx : Context) : UsageGuidance :=
  if isDanger ctx then
    ⟨.totalStop, "안전 확인이 필요하여 제품 사용을 중단하고 상담 연결을 진행합니다.", ["전체 제품 사용"],
      ["제품 사용을 중단하고 전문 상담 연결을 요청해 주세요."]⟩
  else
    ⟨.pendingConsultation, "자동 안내를 확정하지 못해 상담사 검토가 필요합니다.", ["검토 전 자가조치 안내"],
      ["전문 상담 연결을 요청해 주세요."]⟩

def block (ctx : Context) : Context := { ctx with usageGuidance := some (safeBlockingGuidance ctx) }

/-- `_review_reason`. -/
def reviewReason (codes : List IssueCode) : String :=
  "HARNESS_HUMAN_REVIEW:" ++
    if codes.isEmpty then "UNSPECIFIED" else ",".intercalate (codes.map IssueCode.text)

section Route
variable (u : Unicode) (config : SafetyRules) (o : Outside) (a : Args)

/-- `_create_handoff`. -/
def createHandoff (harness : HarnessResult) (reason : String) : Step RuntimeResult := fun s =>
  let handoff : Handoff := ⟨reason, contextRoutingReason s.ctx reason,
    harness.verification.acceptedEvidenceChunkIds.eraseDups⟩
  ((callUnit o.agent).andThen fun _ =>
    (update fun s => { s with handoffs := s.handoffs ++ [handoff] }).andThen fun _ s =>
      (.ok ⟨harness, none, some handoff⟩, s)) s

/-- `hitl_workflow.start`. -/
def startReview (harness : HarnessResult) (guidance : UsageGuidance) : Step RuntimeResult :=
  let codes := harness.verification.issues.map (·.code)
  let review : Review := ⟨a.product.modelCode, a.product.productFamily, reviewReason codes, codes,
    harness.verification.acceptedEvidenceChunkIds, guidance⟩
  (callUnit o.agent).andThen fun _ =>
    (update fun s => { s with reviews := s.reviews ++ [review] }).andThen fun _ s =>
      (.ok ⟨harness, some review, none⟩, s)

/-- `route_runtime`. -/
def routeRuntime (harness : HarnessResult) (guidance : Option UsageGuidance)
    (forceHandoffReason : Option String) : Step RuntimeResult :=
  if harness.decision = .humanReview then
    match guidance with
    | none => createHandoff o harness (canonicalEscalationReason harness)
    | some guidance => startReview o a harness guidance
  else if harness.shouldEscalate then createHandoff o harness (canonicalEscalationReason harness)
  else
    match forceHandoffReason with
    | some reason => createHandoff o harness reason
    | none => fun s => (.ok ⟨harness, none, none⟩, s)

/-- What an escalation leaves of the context. -/
def escalated (harness : HarnessResult) (ctx : Context) : Context :=
  let ctx := block ctx
  if harness.verification.acceptedEvidenceChunkIds.isEmpty then
    { ctx with
      evidenceReferences := []
      retrievalOutcome :=
        if ctx.retrievalOutcome = .available then .noMatch else ctx.retrievalOutcome }
  else ctx

/-- `_route_final`. -/
def routeFinal (harness : HarnessResult) : Step RuntimeResult := fun s =>
  let guidance := s.ctx.usageGuidance
  match harness.decision with
  | .humanReview =>
      match guidance with
      | none => ((updateContext block).andThen fun _ => routeRuntime o a harness none none) s
      | some _ =>
          ((routeRuntime o a harness guidance none).andThen fun routed =>
            (updateContext block).andThen fun _ s => (.ok routed, s)) s
  | .escalate =>
      ((updateContext (escalated harness)).andThen fun _ s =>
        routeRuntime o a harness s.ctx.usageGuidance none s) s
  | _ => routeRuntime o a harness guidance
      (if isDanger s.ctx then some "DANGER_PRIORITY" else none) s

/-! ### The loop -/

/-- `ReliabilityRuntimeResult`. -/
structure ReliabilityResult where
  harnessRuntime : RuntimeResult
  retrievalRetryPerformed : Bool
  generationRetryPerformed : Bool
  blockedEvidenceChunkIds : List String
  timeoutStage : Option String
  deriving DecidableEq, Repr

/-- The retries of a run so far. -/
structure Performed where
  retrieval : Bool
  generation : Bool
  deriving DecidableEq, Repr

/-- `evidence_for_harness`: of chunks with one id the first. -/
def evidenceForHarness (s : State) : List RetrievedChunk :=
  let merged := (s.capture.forwarded.filter fun chunk =>
    s.ctx.evidenceReferences.contains chunk.chunkId) ++ s.capture.rejected
  merged.foldl (fun kept chunk =>
    if kept.any (·.chunkId == chunk.chunkId) then kept else kept ++ [chunk]) []

/-- `_evidence_required`. -/
def evidenceRequired (ctx : Context) : Bool := !ctx.awaitingCustomerInput && !isDanger ctx

/-- A call of the runner over the context. An exception of the verification is any other. -/
def harness (state : RetryState) (evidenceRequired timedOut : Bool)
    (toolFailure : Option ToolFailure) (requiredFunctions : List (List Char)) (output : Output) :
    Step HarnessResult := fun s =>
  let request : Request := ⟨a.product, if a.captured then evidenceForHarness s else [],
    s.ctx.safetyAssessment, s.ctx.usageGuidance, requiredFunctions, output, timedOut,
    evidenceRequired, toolFailure⟩
  match Harness.run u config request state with
  | .ok result => (.ok result, s)
  | .error _ => (.error (.raised false), s)

/-- The route of a decision, and the result of the run. -/
def finish (performed : Performed) (timeoutStage : Option String) (result : HarnessResult) :
    Step ReliabilityResult :=
  (routeFinal o a result).andThen fun routed s =>
    (.ok ⟨routed, performed.retrieval, performed.generation,
      if a.captured then (s.capture.allRejected.map (·.chunkId)).eraseDups else [], timeoutStage⟩, s)

/-- `_timeout_result`. -/
def timeoutResult (state : RetryState) (performed : Performed) (stage : String) :
    Step ReliabilityResult :=
  (harness u config a state false true none [] .absent).andThen (finish o a performed (some stage))

/-- `_tool_failure_result`, of the failure that `_mcp_tool_failure` reads. -/
def toolFailureResult (state : RetryState) (performed : Performed) (kind : Option ToolFailureKind)
    (retryable : Bool) : Step ReliabilityResult :=
  let failure : ToolFailure := ⟨.searchOfficialEvidence, kind.getD .executionError, retryable⟩
  (harness u config a state false false (some failure) [] .absent).andThen (finish o a performed none)

/-- The verification of a round, with the failure of a tool in the first. -/
def verifyRound (state : RetryState) (toolFailure : Option ToolFailure) : Step HarnessResult :=
  fun s => harness u config a state (evidenceRequired s.ctx) false toolFailure a.requiredFunctions
    a.output s

/-- What follows the loop. -/
def fallback (state : RetryState) (performed : Performed) : Step ReliabilityResult :=
  (verifyRound u config a state none).andThen (finish o a performed none)

/-- The loop of `run`. -/
def rounds : Nat → RetryState → Performed → Option ToolFailure → Step ReliabilityResult
  | 0, state, performed, _ => fallback u config o a state performed
  | n + 1, state, performed, toolFailure =>
      (verifyRound u config a state toolFailure).andThen fun result s =>
        match result.decision with
        | .retryRetrieval =>
            if performed.retrieval || a.service.isNone then
              fallback u config o a result.retryState performed s
            else
              let performed := { performed with retrieval := true }
              match retryRetrieval u config o a s with
              | (.ok (), s) => rounds n result.retryState performed none s
              | (.error (.stageTimeout stage), s) =>
                  timeoutResult u config o a result.retryState performed stage s
              | (.error (.toolError kind retryable), s) =>
                  toolFailureResult u config o a result.retryState performed kind retryable s
              | (.error failure, s) => (.error failure, s)
        | .retryGeneration =>
            if performed.generation then fallback u config o a result.retryState performed s
            else
              let performed := { performed with generation := true }
              match retryGeneration config o s with
              | (.ok (), s) => rounds n result.retryState performed none s
              | (.error (.stageTimeout stage), s) =>
                  timeoutResult u config o a result.retryState performed stage s
              | (.error failure, s) => (.error failure, s)
        | _ => finish o a performed none result s

/-- `ReliabilityRuntime.run`. -/
def run : Step ReliabilityResult :=
  rounds u config o a 3 ⟨0, 0⟩ ⟨false, false⟩ a.toolFailure

end Route

end WaterCare.Ai.Reliability
