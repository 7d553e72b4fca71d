import WaterCare.Workflow.Contract

/-!
The choice fields of the Backend models that are not workflow codes, with the
strings stored for them.
-/

namespace WaterCare.Store
open Workflow

/-- A UUID in its canonical text. -/
abbrev Uuid := { text : String // Py.hasText text = true }

/-- `User.Role`. -/
inductive UserRole
  | customer
  | consultant
  | technician
  | operator
  deriving DecidableEq, Repr

def UserRole.actorRole : UserRole → ActorRole
  | customer => .customer
  | consultant => .consultant
  | technician => .technician
  | operator => .operator

/-- `CustomerSubscription.Status`. -/
inductive SubscriptionStatus
  | active
  | suspended
  | cancelled
  | expired
  deriving DecidableEq, Repr

/-- `QuestionnaireSession.Status`. -/
inductive SessionStatus
  | unanswered
  | inProgress
  | submitted
  deriving DecidableEq, Repr

def SessionStatus.code : SessionStatus → String
  | unanswered => "UNANSWERED"
  | inProgress => "IN_PROGRESS"
  | submitted => "SUBMITTED"

/-- `Inquiry.AssignedRole`. -/
inductive AssignedRole
  | none
  | consultant
  | technician
  deriving DecidableEq, Repr

/-- `Inquiry.Channel`. -/
inductive Channel
  | web
  | mobile
  | phone
  | operator
  deriving DecidableEq, Repr

def Channel.code : Channel → String
  | web => "WEB"
  | mobile => "MOBILE"
  | phone => "PHONE"
  | operator => "OPERATOR"

inductive RiskLevel
  | general
  | caution
  | danger
  deriving DecidableEq, Repr

def RiskLevel.code : RiskLevel → String
  | general => "general"
  | caution => "caution"
  | danger => "danger"

/-- `Inquiry.Priority`. -/
inductive Priority
  | low
  | normal
  | high
  | urgent
  deriving DecidableEq, Repr

def Priority.code : Priority → String
  | low => "LOW"
  | normal => "NORMAL"
  | high => "HIGH"
  | urgent => "URGENT"

inductive UsageGuidanceStatus
  | normal
  | partialStop
  | totalStop
  | pendingConsultation
  deriving DecidableEq, Repr

def UsageGuidanceStatus.code : UsageGuidanceStatus → String
  | normal => "NORMAL"
  | partialStop => "PARTIAL_STOP"
  | totalStop => "TOTAL_STOP"
  | pendingConsultation => "PENDING_CONSULTATION"

/-- `Inquiry.EvidenceMode`. -/
inductive EvidenceMode
  | exactModel
  | noEvidence
  | partialEvidence
  deriving DecidableEq, Repr

/-- `Inquiry.CancellationReason`. -/
inductive CancellationReason
  | customerRequest
  | duplicateInquiry
  | issueResolved
  | other
  deriving DecidableEq, Repr

def CancellationReason.code : CancellationReason → String
  | customerRequest => "CUSTOMER_REQUEST"
  | duplicateInquiry => "DUPLICATE_INQUIRY"
  | issueResolved => "ISSUE_RESOLVED"
  | other => "OTHER"

/-- `Consultation.Status`. -/
inductive ConsultationStatus
  | waiting
  | assigned
  | inProgress
  | completed
  | cancelled
  deriving DecidableEq, Repr

namespace ConsultationStatus

/-- The statuses `cancel_active` selects. -/
def isActive : ConsultationStatus → Bool
  | waiting | assigned | inProgress => true
  | completed | cancelled => false

/-- A consultation that still waits for its start. -/
def isPending : ConsultationStatus → Bool
  | waiting | assigned => true
  | inProgress | completed | cancelled => false

end ConsultationStatus

/-- `Consultation.Outcome`. -/
inductive Outcome
  | pending
  | completedNoVisit
  | visitRequired
  | reopenedFollowup
  deriving DecidableEq, Repr

def Outcome.code : Outcome → String
  | pending => "PENDING"
  | completedNoVisit => "COMPLETED_NO_VISIT"
  | visitRequired => "VISIT_REQUIRED"
  | reopenedFollowup => "REOPENED_FOLLOWUP"

/-- `FollowupConfirmation.Channel`. -/
inductive FollowupChannel
  | app
  | web
  | phone
  deriving DecidableEq, Repr

/-- `FollowupConfirmation.ResolutionStatus`. -/
inductive ResolutionStatus
  | pending
  | resolved
  | unresolved
  | reopened
  deriving DecidableEq, Repr

/-- `FollowupConfirmation.NextAction`. -/
inductive NextAction
  | finalizeInquiry
  | resumeConsultation
  | none
  deriving DecidableEq, Repr

/-- `AIRun.Status`. -/
inductive RunStatus
  | queued
  | running
  | succeeded
  | noEvidence
  | failed
  | timedOut
  | retrying
  | cancelled
  deriving DecidableEq, Repr

/-- `AIRun.SchemaValidationStatus`. -/
inductive SchemaStatus
  | notRun
  | passed
  | failed
  deriving DecidableEq, Repr

/-- `HumanReview.Status`. -/
inductive ReviewStatus
  | pending
  | approved
  | modified
  | rejected
  | resumeFailed
  deriving DecidableEq, Repr

def ReviewStatus.code : ReviewStatus → String
  | pending => "PENDING"
  | approved => "APPROVED"
  | modified => "MODIFIED"
  | rejected => "REJECTED"
  | resumeFailed => "RESUME_FAILED"

/-- `HumanReview.Decision`. -/
inductive ReviewDecision
  | approve
  | modify
  | reject
  deriving DecidableEq, Repr

def ReviewDecision.code : ReviewDecision → String
  | approve => "APPROVE"
  | modify => "MODIFY"
  | reject => "REJECT"

/-- `HumanReview.ConsultationOrigin`. -/
inductive ConsultationOrigin
  | notRequired
  | safetyLocked
  | failClosedLocked
  | nonSafetyResolvable
  | unknownLocked
  deriving DecidableEq, Repr

def ConsultationOrigin.code : ConsultationOrigin → String
  | notRequired => "NOT_REQUIRED"
  | safetyLocked => "SAFETY_LOCKED"
  | failClosedLocked => "FAIL_CLOSED_LOCKED"
  | nonSafetyResolvable => "NON_SAFETY_RESOLVABLE"
  | unknownLocked => "UNKNOWN_LOCKED"

/-- `HumanReview.ConsultationOriginReason`. -/
inductive OriginReason
  | notRequired
  | dangerAssessment
  | explicitSafetyRule
  | failClosedAiResult
  | harnessUnsupportedFunction
  | harnessScopeExceeded
  | unclassifiedAiSignal
  | legacyUnclassified
  deriving DecidableEq, Repr

def OriginReason.code : OriginReason → String
  | notRequired => "NOT_REQUIRED"
  | dangerAssessment => "DANGER_ASSESSMENT"
  | explicitSafetyRule => "EXPLICIT_SAFETY_RULE"
  | failClosedAiResult => "FAIL_CLOSED_AI_RESULT"
  | harnessUnsupportedFunction => "HARNESS_UNSUPPORTED_FUNCTION"
  | harnessScopeExceeded => "HARNESS_SCOPE_EXCEEDED"
  | unclassifiedAiSignal => "UNCLASSIFIED_AI_SIGNAL"
  | legacyUnclassified => "LEGACY_UNCLASSIFIED"

/-- `HumanReview.ConsultationDisposition`. -/
inductive Disposition
  | preserve
  | require
  | resolveNonSafety
  deriving DecidableEq, Repr

def Disposition.code : Disposition → String
  | preserve => "PRESERVE"
  | require => "REQUIRE"
  | resolveNonSafety => "RESOLVE_NON_SAFETY"

/-- `HumanReview.ConsultationChangeReason`. -/
inductive ChangeReason
  | consultantSafetyEscalation
  | productFunctionUncertain
  | customerContextIncomplete
  | productCapabilityVerified
  | harnessScopeVerified
  | humanReviewRejected
  deriving DecidableEq, Repr

def ChangeReason.code : ChangeReason → String
  | consultantSafetyEscalation => "CONSULTANT_SAFETY_ESCALATION"
  | productFunctionUncertain => "PRODUCT_FUNCTION_UNCERTAIN"
  | customerContextIncomplete => "CUSTOMER_CONTEXT_INCOMPLETE"
  | productCapabilityVerified => "PRODUCT_CAPABILITY_VERIFIED"
  | harnessScopeVerified => "HARNESS_SCOPE_VERIFIED"
  | humanReviewRejected => "HUMAN_REVIEW_REJECTED"

end WaterCare.Store
