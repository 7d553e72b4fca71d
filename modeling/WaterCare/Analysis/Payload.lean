import WaterCare.Store.Codes

/-!
The public analysis result the AI returns and the Backend stores: the fields of
`SymptomAnalysisResult` that either side reads.
-/

namespace WaterCare.Analysis
open Store

/-- `SafetyPriority`. -/
inductive SafetyPriority
  | generalGuidance
  | consultationRecommended
  | priorityConsultation
  deriving DecidableEq, Repr

/-- `AiExecutionStatus`. -/
inductive ExecutionStatus
  | succeeded
  | fallback
  deriving DecidableEq, Repr

/-- `AiStage`. -/
inductive AiStage
  | structuring
  | checkingMissingFields
  | safetyCheck
  | retrieving
  | reranking
  | generating
  | validating
  | completed
  | failed
  | cancelled
  deriving DecidableEq, Repr

/-- `FallbackReasonCode`. -/
inductive FallbackReason
  | runtimeProductNotApproved
  | noEvidence
  | mcpToolFailure
  | outputSchemaInvalid
  | unspecifiedFallback
  deriving DecidableEq, Repr

def FallbackReason.code : FallbackReason → String
  | runtimeProductNotApproved => "RUNTIME_PRODUCT_NOT_APPROVED"
  | noEvidence => "NO_EVIDENCE"
  | mcpToolFailure => "MCP_TOOL_FAILURE"
  | outputSchemaInvalid => "OUTPUT_SCHEMA_INVALID"
  | unspecifiedFallback => "UNSPECIFIED_FALLBACK"

structure SafetyAssessment where
  riskLevel : RiskLevel
  priority : SafetyPriority
  requiresConsultation : Bool
  matchedSafetyRuleIds : List String
  safetyReason : String
  deriving DecidableEq, Repr

structure UsageGuidance where
  guidanceStatus : UsageGuidanceStatus
  message : String
  restrictedFunctions : List String
  nextActions : List String
  deriving DecidableEq, Repr

structure FollowUpQuestion where
  questionId : String
  questionText : String
  options : List String
  targetField : String
  deriving DecidableEq, Repr

/-- Identifiers are the numbers of the rows they name. -/
structure SymptomAnalysisResult where
  inquiryId : Nat
  correlationId : Uuid
  aiRequestId : String
  stateVersion : Nat
  modelCode : String
  status : ExecutionStatus
  fallbackReasonCode : Option FallbackReason
  failureStage : Option AiStage
  retryCount : Nat
  missingFields : List String
  followupQuestions : List FollowUpQuestion
  safetyAssessment : SafetyAssessment
  usageGuidance : UsageGuidance
  evidenceReferences : List String
  reason_iff : fallbackReasonCode.isSome = decide (status = .fallback)
  deriving DecidableEq

namespace SymptomAnalysisResult
variable (r : SymptomAnalysisResult)

def isFallback : Bool := decide (r.status = .fallback)

def isDanger : Bool := decide (r.safetyAssessment.riskLevel = .danger)

/-- `is_product_validation_failed`. -/
def isProductValidationFailed : Bool :=
  r.isFallback && decide (r.fallbackReasonCode = some .runtimeProductNotApproved)

/-- `is_no_evidence` of the mapped response. -/
def isNoEvidence : Bool :=
  r.isFallback && decide (r.fallbackReasonCode = some .noEvidence) && r.evidenceReferences.isEmpty

end SymptomAnalysisResult

/-- The identifiers of an output that answers a request with an error. -/
structure ErrorOutput where
  inquiryId : Nat
  correlationId : Uuid
  aiRequestId : String
  stateVersion : Nat
  deriving DecidableEq

/-- The output of a run that passed its contract. -/
inductive RunOutput
  | success (result : SymptomAnalysisResult)
  | failure (error : ErrorOutput)
  deriving DecidableEq

/-- The result of an output that is not an error. -/
def RunOutput.result : RunOutput → Option SymptomAnalysisResult
  | success result => some result
  | failure _ => none

end WaterCare.Analysis
