import WaterCare.Service.Analysis

/-!
`customer_inquiry_service.py` and `guidance_review_policy.py`: which guidance a customer
may read, decided anew from the stored rows.
-/

namespace WaterCare.Service
open Store

namespace GuidanceReviewPolicy

/-- `is_customer_visible`, with the one of `CautionAutoPublicationPolicy`. -/
def isCustomerVisible (riskLevel : RiskLevel) (reviewStatus : String) : Bool :=
  match riskLevel with
  | .caution => decide (reviewStatus = "APPROVED")
  | .general | .danger => decide (reviewStatus = "APPROVED" ∨ reviewStatus = "CONFIRMED")

end GuidanceReviewPolicy

namespace CustomerInquiryService
open HumanReviewService (isEscalation isResolution guidanceOf)

/-- A link with a completed verification. -/
def isVerifiedLink (link : EvidenceLink) : Bool :=
  link.isVerified && link.verifiedBy.isSome && link.verifiedAt.isSome

/-- What a link cites: its chunk and the document the chunk is of. -/
def fingerprint (link : EvidenceLink) : String × String := (link.chunk, link.documentSha256)

/-- `_resolution_snapshot_matches_evidence`. -/
def resolutionSnapshotMatchesEvidence (snapshot : List EvidenceLink)
    (verifiedEvidenceFingerprints : List (String × String)) : Bool :=
  !snapshot.isEmpty && snapshot.all (fun item => item.documentSha256 != "") &&
    snapshot.all fun item => verifiedEvidenceFingerprints.contains (fingerprint item)

/-- The statuses of a review whose decision may be shown. -/
def isPublicationStatus : ReviewStatus → Bool
  | .approved | .modified | .resumeFailed => true
  | .pending | .rejected => false

/-- The decisions that publish a guidance. -/
def isPublication : ReviewDecision → Bool
  | .approve | .modify => true
  | .reject => false

/-- The reasons of the origin a resolution may have. -/
def isHarnessReason : OriginReason → Bool
  | .harnessUnsupportedFunction | .harnessScopeExceeded => true
  | .notRequired | .dangerAssessment | .explicitSafetyRule | .failClosedAiResult
  | .unclassifiedAiSignal | .legacyUnclassified => false

/-- The need for a consultation the review records is the one the guidance shows. -/
def consultationIsRecorded (g : Guidance) (aiRequiresConsultation : Bool)
    (verifiedEvidenceFingerprints : List (String × String)) (review : HumanReview) : Bool :=
  if aiRequiresConsultation = g.requiresConsultation then
    decide (review.disposition = some .preserve) && review.changeReason.isNone &&
      review.evidenceSnapshot.isEmpty
  else
    decide (review.disposition = some .require) && !aiRequiresConsultation &&
        g.requiresConsultation && review.changeReason.any isEscalation &&
        review.evidenceSnapshot.isEmpty ||
      decide (review.disposition = some .resolveNonSafety) && aiRequiresConsultation &&
        !g.requiresConsultation && decide (review.origin = .nonSafetyResolvable) &&
        isHarnessReason review.originReason && review.changeReason.any isResolution &&
        resolutionSnapshotMatchesEvidence review.evidenceSnapshot verifiedEvidenceFingerprints

/-- The review has published the guidance: one turn of the loop over its publications. -/
def provesPublication (a : Aggregate) (g : Guidance) (aiRequiresConsultation : Bool)
    (verifiedEvidenceFingerprints : List (String × String)) (review : HumanReview) : Bool :=
  isPublicationStatus review.status && review.decision.any isPublication &&
    review.reviewer.isSome && review.decidedAt.isSome &&
    review.decisionReasonCode.any (· != "") && review.decisionIdempotencyKey.any (· != "") &&
    review.decisionCorrelationId.isSome &&
    (guidanceOf a review.guidance).any (fun original => decide (original.1.run = g.run)) &&
    review.originalRequiresConsultation == aiRequiresConsultation &&
    review.effectiveRequiresConsultation == g.requiresConsultation &&
    consultationIsRecorded g aiRequiresConsultation verifiedEvidenceFingerprints review

/-- `_effective_consultation_is_valid`. -/
def effectiveConsultationIsValid (a : Aggregate) (g : Guidance) (aiRequiresConsultation : Bool)
    (requireHumanApproval : Bool) : Bool :=
  !requireHumanApproval && g.requiresConsultation == aiRequiresConsultation ||
    let publications := a.reviews.filter fun review =>
      decide (review.1.publishedGuidance = some g.id)
    let verified := g.evidenceLinks.filter isVerifiedLink
    decide (g.evidenceSufficiency = "VERIFIED") && !g.evidenceLinks.isEmpty &&
      decide (verified.length = g.evidenceLinks.length) &&
      publications.any fun review =>
        provesPublication a g aiRequiresConsultation (verified.map fingerprint) review.1

end CustomerInquiryService
end WaterCare.Service
