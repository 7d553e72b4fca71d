import WaterCare.Ai.SafetyRules
import WaterCare.Py.Unicode

/-!
The harness of the AI runtime: the verification of evidence, product, safety and schema, the
budget of retries, and the decision that `HarnessRunner.run` makes of both.
-/

namespace WaterCare.Ai.Harness
open Store Analysis Machine Py

/-! ### `product_match.py` -/

inductive ProductFamily
  | unknown
  | directWaterPurifier
  | iceWaterPurifier
  deriving DecidableEq, Repr

structure ProductContext where
  modelCode : List Char
  productFamily : ProductFamily
  runtimeApproved : Bool
  supportedFunctions : List (List Char)
  deriving DecidableEq, Repr

/-- `RetrievedChunk`, with the fields that the harness reads. -/
structure RetrievedChunk where
  chunkId : String
  modelCode : Option (List Char)
  verificationStatus : String
  allowedUse : Bool
  runtimeEligible : Bool
  deriving DecidableEq, Repr

inductive IssueCode
  | noEvidence
  | unverifiedEvidence
  | wrongModelEvidence
  | productFamilyMismatch
  | unsupportedFunction
  | safetyConflict
  | outputSchemaInvalid
  | aiProcessingTimeout
  | runtimeProductNotApproved
  | mcpToolFailure
  deriving DecidableEq, Repr

def IssueCode.text : IssueCode → String
  | .noEvidence => "NO_EVIDENCE"
  | .unverifiedEvidence => "UNVERIFIED_EVIDENCE"
  | .wrongModelEvidence => "WRONG_MODEL_EVIDENCE"
  | .productFamilyMismatch => "PRODUCT_FAMILY_MISMATCH"
  | .unsupportedFunction => "UNSUPPORTED_FUNCTION"
  | .safetyConflict => "SAFETY_CONFLICT"
  | .outputSchemaInvalid => "OUTPUT_SCHEMA_INVALID"
  | .aiProcessingTimeout => "AI_PROCESSING_TIMEOUT"
  | .runtimeProductNotApproved => "RUNTIME_PRODUCT_NOT_APPROVED"
  | .mcpToolFailure => "MCP_TOOL_FAILURE"

structure VerificationIssue where
  code : IssueCode
  message : String
  retryable : Bool
  chunkId : Option String
  deriving DecidableEq, Repr

/-- `VerificationIssue(...)`: texts are stripped and bounded. -/
def issue (code : IssueCode) (message : String) (retryable : Bool) (chunkId : Option String) :
    Except RuleFault VerificationIssue :=
  let message := strip message
  let chunkId := chunkId.map strip
  if 1 ≤ message.length ∧ message.length ≤ 500 ∧
      chunkId.all (fun id => decide (1 ≤ id.length ∧ id.length ≤ 200)) then
    .ok ⟨code, message, retryable, chunkId⟩
  else .error .validationError

structure ProductMatchResult where
  modelMatchValid : Bool
  productFamilyValid : Bool
  functionCompatibilityValid : Bool
  acceptedChunkIds : List String
  rejectedChunkIds : List String
  issues : List VerificationIssue
  deriving DecidableEq, Repr

section Match
variable (u : Unicode)

/-- `normalize_model_code`. -/
def normalizeModelCode (value : Option (List Char)) : Option (List Char) :=
  (value.map fun code => (u.upper code).filter fun c => c.isUpper || c.isDigit).filter (· ≠ [])

/-- `infer_product_family`. -/
def inferProductFamily (modelCode : Option (List Char)) : Option ProductFamily :=
  match normalizeModelCode u modelCode with
  | none => none
  | some normalized =>
      if contained "IAC425" normalized || contained "IAC606" normalized then
        some .iceWaterPurifier
      else if contained "JAC104" normalized || contained "JCC104" normalized then
        some .directWaterPurifier
      else none

/-- One round of the loop over the evidence. -/
def matchChunk (product : ProductContext) (result : ProductMatchResult) (chunk : RetrievedChunk) :
    Except RuleFault ProductMatchResult := do
  let chunkModel := normalizeModelCode u chunk.modelCode
  if chunkModel.isNone || chunkModel != normalizeModelCode u (some product.modelCode) then
    let found ← issue .wrongModelEvidence
      "Evidence model_code does not exactly match the customer model." true chunk.chunkId
    return { result with
      modelMatchValid := false
      rejectedChunkIds := result.rejectedChunkIds ++ [chunk.chunkId]
      issues := result.issues ++ [found] }
  else if (inferProductFamily u chunk.modelCode).any (· != product.productFamily) then
    let found ← issue .productFamilyMismatch
      "Evidence product family conflicts with the customer product family." true chunk.chunkId
    return { result with
      productFamilyValid := false
      rejectedChunkIds := result.rejectedChunkIds ++ [chunk.chunkId]
      issues := result.issues ++ [found] }
  else return { result with acceptedChunkIds := result.acceptedChunkIds ++ [chunk.chunkId] }

/-- The names of functions as they are compared. -/
def functionNames (lower : List Char → List Char) (functions : List (List Char)) : List (List Char) :=
  (functions.filter fun name => !(stripChars name).isEmpty).map fun name => lower (stripChars name)

/-- `ProductMatchVerifier.verify`. -/
def matchProduct (product : ProductContext) (evidenceChunks : List RetrievedChunk)
    (requiredFunctions : List (List Char)) : Except RuleFault ProductMatchResult := do
  let result ← evidenceChunks.foldlM (matchChunk u product) ⟨true, true, true, [], [], []⟩
  let supported := functionNames u.lower product.supportedFunctions
  let missing := (functionNames u.lower requiredFunctions).filter (· ∉ supported)
  if missing.isEmpty then return result
  else
    let found ← issue .unsupportedFunction
      ("Requested function is not supported by the customer product: " ++
        ", ".intercalate (sortedStrings (missing.map String.ofList))) false none
    return { result with
      functionCompatibilityValid := false
      issues := result.issues ++ [found] }

end Match

/-! ### `tool_failure.py` and `verification_result.py` -/

inductive ToolName
  | searchOfficialEvidence
  | lookupProductContext
  | getInquiryContext
  deriving DecidableEq, Repr

def ToolName.text : ToolName → String
  | .searchOfficialEvidence => "search_official_evidence"
  | .lookupProductContext => "lookup_product_context"
  | .getInquiryContext => "get_inquiry_context"

inductive ToolFailureKind
  | timeout
  | unavailable
  | invalidResponse
  | executionError
  deriving DecidableEq, Repr

def ToolFailureKind.text : ToolFailureKind → String
  | .timeout => "TIMEOUT"
  | .unavailable => "UNAVAILABLE"
  | .invalidResponse => "INVALID_RESPONSE"
  | .executionError => "EXECUTION_ERROR"

/-- `McpToolFailure`. -/
structure ToolFailure where
  toolName : ToolName
  kind : ToolFailureKind
  retryable : Bool
  deriving DecidableEq, Repr

/-- `retrieval_retry_allowed`. -/
def ToolFailure.retrievalRetryAllowed (failure : ToolFailure) : Bool :=
  failure.retryable && failure.toolName == .searchOfficialEvidence

inductive Decision
  | pass
  | retryRetrieval
  | retryGeneration
  | humanReview
  | escalate
  deriving DecidableEq, Repr

structure VerificationResult where
  decision : Decision
  evidencePresent : Bool
  productMatchValid : Bool
  productFamilyValid : Bool
  functionCompatibilityValid : Bool
  safetyValid : Bool
  schemaValid : Bool
  acceptedEvidenceChunkIds : List String
  rejectedEvidenceChunkIds : List String
  issues : List VerificationIssue
  deriving DecidableEq, Repr

/-- `passed`. -/
def VerificationResult.passed (result : VerificationResult) : Bool := result.decision == .pass

/-! ### `verifier.py` -/

/-- The `output_payload` and the `output_schema` of a run: neither, one of them, or both and
whether the schema accepts the payload. -/
inductive Output
  | absent
  | partly
  | given (valid : Bool)
  deriving DecidableEq, Repr

/-- What `HarnessRunner.run` is called with. -/
structure Request where
  product : ProductContext
  evidenceChunks : List RetrievedChunk
  safetyAssessment : Option SafetyAssessment
  guidance : Option UsageGuidance
  requiredFunctions : List (List Char)
  output : Output
  timedOut : Bool
  evidenceRequired : Bool
  toolFailure : Option ToolFailure

/-- `VERIFIED_STATUSES`. -/
def verifiedStatuses : List String := ["official_verified", "team_verified"]

/-- The approval of a chunk, apart from its product. -/
def RetrievedChunk.approved (chunk : RetrievedChunk) : Bool :=
  chunk.allowedUse && chunk.runtimeEligible && verifiedStatuses.contains chunk.verificationStatus

section Verify
variable (u : Unicode) (config : SafetyRules)

/-- `_safety_is_consistent`: a `ValueError` of the alignment is a conflict; pydantic's is one. -/
def safetyIsConsistent (safety : Option SafetyAssessment) (guidance : Option UsageGuidance) :
    Except RuleFault Bool :=
  match safety, guidance with
  | some safety, some guidance =>
      match config.align safety guidance with
      | .ok () => .ok true
      | .error (.raised exn) => .error (.raised exn)
      | .error _ => .ok false
  | _, _ => .ok true

/-- `_schema_is_valid`. -/
def schemaIsValid (guidance : Option UsageGuidance) (output : Output) : Bool :=
  guidance.isSome &&
    match output with
    | .absent => true
    | .partly => false
    | .given valid => valid

/-- A result without a look at the evidence. -/
def closed (r : Request) (decision : Decision) (evidencePresent matched family safe schema : Bool)
    (found : VerificationIssue) : VerificationResult :=
  ⟨decision, evidencePresent, matched, family, false, safe, schema, [],
    r.evidenceChunks.map (·.chunkId), [found]⟩

/-- The codes of issues that a new retrieval may mend. -/
def retryableRetrievalIssue (found : VerificationIssue) : Bool :=
  found.retryable && (found.code == .unverifiedEvidence || found.code == .wrongModelEvidence ||
    found.code == .productFamilyMismatch)

/-- The decision over the evidence, the safety and the schema. -/
def decide (r : Request) (result : ProductMatchResult) (issues : List VerificationIssue)
    (safetyValid schemaValid : Bool) : Decision :=
  let evidencePresent := !result.acceptedChunkIds.isEmpty
  if !safetyValid then .escalate
  else if !result.functionCompatibilityValid then .humanReview
  else if r.evidenceRequired && !evidencePresent then
    -- Only a search with unusable evidence is repeated; a search without any is final.
    if issues.any retryableRetrievalIssue then .retryRetrieval else .escalate
  else if r.evidenceRequired && !(result.modelMatchValid && result.productFamilyValid) then
    .retryRetrieval
  else if !schemaValid then .retryGeneration
  else .pass

/-- `[message] if condition`. -/
def issueIf (condition : Bool) (code : IssueCode) (message : String) (retryable : Bool) :
    Except RuleFault (List VerificationIssue) :=
  if condition then (issue code message retryable none).map fun found => [found] else .ok []

/-- The verification of an approved product, without a failure of a tool. -/
def verifyEvidence (r : Request) : Except RuleFault VerificationResult := do
  let (eligible, refused) := r.evidenceChunks.partition (·.approved)
  let unverified ← refused.mapM fun chunk => issue .unverifiedEvidence
    "Evidence is not approved or runtime-eligible for customer guidance." true chunk.chunkId
  let result ← matchProduct u r.product eligible r.requiredFunctions
  let evidencePresent := !result.acceptedChunkIds.isEmpty
  let absent ← issueIf (r.evidenceRequired && !evidencePresent) .noEvidence
    "No product-matched evidence is available for final guidance." false
  let safetyValid ← safetyIsConsistent config r.safetyAssessment r.guidance
  let conflict ← issueIf (!safetyValid) .safetyConflict
    "Generated guidance conflicts with the safety assessment." false
  let schemaValid := schemaIsValid r.guidance r.output
  let schema ← issueIf (!schemaValid) .outputSchemaInvalid
    "Generated output does not satisfy the required schema." true
  let issues := unverified ++ result.issues ++ absent ++ conflict ++ schema
  return ⟨decide r result issues safetyValid schemaValid, evidencePresent, result.modelMatchValid,
    result.productFamilyValid, result.functionCompatibilityValid, safetyValid, schemaValid,
    result.acceptedChunkIds, (refused.map (·.chunkId) ++ result.rejectedChunkIds).eraseDups, issues⟩

/-- `HarnessVerifier.verify`. -/
def verify (r : Request) : Except RuleFault VerificationResult := do
  if r.timedOut then
    let found ← issue .aiProcessingTimeout
      "AI processing exceeded the allowed runtime budget." false none
    return closed r .escalate (!r.evidenceChunks.isEmpty) false false false false found
  else if !r.product.runtimeApproved then
    let found ← issue .runtimeProductNotApproved
      ("The exact product is known but is not approved for the current " ++
        "customer-facing AI runtime.") false none
    return closed r .escalate false false (r.product.productFamily != .unknown)
      (← safetyIsConsistent config r.safetyAssessment r.guidance)
      (schemaIsValid r.guidance r.output) found
  else
    match r.toolFailure with
    | some failure =>
        let found ← issue .mcpToolFailure
          ("MCP Tool failed: " ++ failure.toolName.text ++ " (" ++ failure.kind.text ++ ").")
          failure.retrievalRetryAllowed none
        return closed r (if failure.retrievalRetryAllowed then .retryRetrieval else .escalate) false
          true (r.product.productFamily != .unknown)
          (← safetyIsConsistent config r.safetyAssessment r.guidance)
          (schemaIsValid r.guidance r.output) found
    | none => verifyEvidence u config r

end Verify

/-! ### `retry_policy.py` -/

/-- `HarnessRetryState`, whose counts are at most one. -/
structure RetryState where
  retrievalRetries : Nat
  generationRetries : Nat
  deriving DecidableEq, Repr

structure PolicyOutcome where
  decision : Decision
  state : RetryState
  exhausted : Bool
  deriving DecidableEq, Repr

/-- `HarnessRetryPolicy.apply`. -/
def applyPolicy (decision : Decision) (state : RetryState) : PolicyOutcome :=
  match decision with
  | .retryRetrieval =>
      if state.retrievalRetries ≥ 1 then ⟨.escalate, state, true⟩
      else ⟨.retryRetrieval, { state with retrievalRetries := state.retrievalRetries + 1 }, false⟩
  | .retryGeneration =>
      if state.generationRetries ≥ 1 then ⟨.escalate, state, true⟩
      else ⟨.retryGeneration, { state with generationRetries := state.generationRetries + 1 }, false⟩
  | decision => ⟨decision, state, false⟩

/-! ### `HarnessRunner.run` -/

inductive ErrorCode
  | noEvidence
  | aiProcessingTimeout
  | mcpToolFailure
  | outputSchemaInvalid
  deriving DecidableEq, Repr

def ErrorCode.text : ErrorCode → String
  | .noEvidence => "NO_EVIDENCE"
  | .aiProcessingTimeout => "AI_PROCESSING_TIMEOUT"
  | .mcpToolFailure => "MCP_TOOL_FAILURE"
  | .outputSchemaInvalid => "OUTPUT_SCHEMA_INVALID"

structure HarnessResult where
  decision : Decision
  verification : VerificationResult
  retryState : RetryState
  errorCode : Option ErrorCode
  shouldRetry : Bool
  shouldEscalate : Bool
  deriving DecidableEq, Repr

/-- `_exhausted_error_code`. -/
def exhaustedErrorCode (verification : VerificationResult) : ErrorCode :=
  if verification.issues.any (·.code == .mcpToolFailure) then .mcpToolFailure
  else if verification.issues.any (·.code == .outputSchemaInvalid) then .outputSchemaInvalid
  else .noEvidence

/-- What `_run_untraced` makes of a verification. -/
def resultOf (r : Request) (state : RetryState) (verification : VerificationResult) :
    HarnessResult :=
  if r.timedOut then ⟨.escalate, verification, state, some .aiProcessingTimeout, false, true⟩
  else if r.toolFailure.isSome && verification.decision == .escalate then
    ⟨.escalate, verification, state, some .mcpToolFailure, false, true⟩
  else
    let policy := applyPolicy verification.decision state
    if policy.exhausted then
      ⟨.escalate, verification, policy.state, some (exhaustedErrorCode verification), false, true⟩
    else
      ⟨policy.decision, verification, policy.state, none,
        policy.decision == .retryRetrieval || policy.decision == .retryGeneration,
        policy.decision == .escalate⟩

/-- `_run_untraced`. -/
def run (u : Unicode) (config : SafetyRules) (r : Request) (state : RetryState) :
    Except RuleFault HarnessResult :=
  (verify u config r).map (resultOf r state)

/-- `_EXTERNAL_FALLBACK_REASON_PRECEDENCE`. -/
def fallbackReasons : List IssueCode :=
  [.runtimeProductNotApproved, .mcpToolFailure, .outputSchemaInvalid, .noEvidence]

/-- `_canonical_escalation_reason`. -/
def canonicalEscalationReason (harness : HarnessResult) : String :=
  if harness.errorCode = some .aiProcessingTimeout then "AI_PROCESSING_TIMEOUT"
  else
    match fallbackReasons.find? fun code => harness.verification.issues.any (·.code == code) with
    | some code => code.text
    | none =>
        match harness.errorCode with
        | some code => code.text
        | none => "UNSPECIFIED_FALLBACK"

end WaterCare.Ai.Harness
