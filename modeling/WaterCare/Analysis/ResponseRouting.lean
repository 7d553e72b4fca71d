import WaterCare.Analysis.SafetyRegistry

/-!
`validation/routing/response_routing_policy.py` of the AI: how a public result reaches
the customer, and the results it replaces because none of the ways is open to them.
-/

namespace WaterCare.Analysis
open Store

inductive ResponseRoutingDisposition
  | dangerHandoff
  | preSendHumanReview
  | autoGuidance
  | failClosedConsultation
  | customerInputPending
  deriving DecidableEq, Repr

namespace ResponseRoutingPolicy

def blockingGuidance : UsageGuidance where
  guidanceStatus := .pendingConsultation
  message := "자동 안내를 확정하지 못해 상담사 검토가 필요합니다."
  restrictedFunctions := ["검토 전 자가조치 안내"]
  nextActions := ["전문 상담 연결을 요청해 주세요."]

/-- `_accepted_evidence_matches`. -/
def acceptedEvidenceMatches (response : SymptomAnalysisResult) : Option (List String) → Bool
  | none => true
  | some accepted =>
      decide response.evidenceReferences.Nodup && decide accepted.Nodup &&
        response.evidenceReferences.all (accepted.contains ·) &&
          accepted.all (response.evidenceReferences.contains ·)

/-- `_invalid_success_fallback`, without its disposition. -/
def invalidSuccessFallback (response : SymptomAnalysisResult) : SymptomAnalysisResult :=
  let safety := response.safetyAssessment
  let (safety, guidance) :=
    if safety.riskLevel ≠ .danger then
      ({ safety with
          riskLevel := .caution
          priority := .consultationRecommended
          requiresConsultation := true
          safetyReason := "자동 안내 Routing 조건을 충족하지 못해 상담 검토가 필요합니다." },
        blockingGuidance)
    else ({ safety with requiresConsultation := true }, response.usageGuidance)
  { response with
    status := .fallback
    fallbackReasonCode := some .outputSchemaInvalid
    failureStage := some .validating
    safetyAssessment := safety
    usageGuidance := guidance
    evidenceReferences := []
    reason_iff := rfl }

/-- `_normalize_existing_fallback`. -/
def normalizeExistingFallback (response : SymptomAnalysisResult) : SymptomAnalysisResult :=
  let safety := response.safetyAssessment
  let guidance := response.usageGuidance
  { response with
    failureStage := response.failureStage.or (some .validating)
    safetyAssessment :=
      if safety.requiresConsultation then safety else { safety with requiresConsultation := true }
    usageGuidance :=
      if safety.riskLevel ≠ .danger ∧ guidance.guidanceStatus ≠ .pendingConsultation then
        blockingGuidance
      else guidance }

def apply (response : SymptomAnalysisResult) (accepted : Option (List String)) :
    SymptomAnalysisResult × ResponseRoutingDisposition :=
  let invalid := (invalidSuccessFallback response, .failClosedConsultation)
  let safety := response.safetyAssessment
  let guidance := response.usageGuidance
  if response.status = .fallback then
    (normalizeExistingFallback response, .failClosedConsultation)
  else if safety.riskLevel = .danger then
    if safety.requiresConsultation = true ∧ safety.matchedSafetyRuleIds ≠ [] ∧
        response.missingFields = [] ∧ response.followupQuestions = [] ∧
        guidance.guidanceStatus ≠ .normal ∧ guidance.guidanceStatus ≠ .pendingConsultation then
      (response, .dangerHandoff)
    else invalid
  else if response.followupQuestions ≠ [] ∧ response.evidenceReferences = [] then
    if safety.riskLevel = .caution ∧ safety.requiresConsultation = true ∧
        guidance.guidanceStatus = .pendingConsultation ∧ response.evidenceReferences = [] then
      (response, .customerInputPending)
    else invalid
  else if safety.riskLevel = .caution then
    if response.evidenceReferences ≠ [] ∧ guidance.guidanceStatus = .partialStop ∧
        acceptedEvidenceMatches response accepted = true then
      (response, .preSendHumanReview)
    else invalid
  else if safety.riskLevel = .general then
    if response.evidenceReferences ≠ [] ∧ safety.requiresConsultation = false ∧
        safety.matchedSafetyRuleIds = [] ∧ response.missingFields = [] ∧
        response.followupQuestions = [] ∧ guidance.guidanceStatus = .normal ∧
        acceptedEvidenceMatches response accepted = true then
      (response, .autoGuidance)
    else invalid
  else invalid

/-! ### The ways a result can go -/

variable {r r₁ : SymptomAnalysisResult} {accepted : Option (List String)}
  {d : ResponseRoutingDisposition}

/-- The dispositions of a result, each with what it needs and the result it sends on. -/
inductive Routes (r : SymptomAnalysisResult) (accepted : Option (List String)) :
    SymptomAnalysisResult → ResponseRoutingDisposition → Prop
  | existing (fallback : r.status = .fallback) :
      Routes r accepted (normalizeExistingFallback r) .failClosedConsultation
  | invalid (succeeded : r.status = .succeeded) :
      Routes r accepted (invalidSuccessFallback r) .failClosedConsultation
  | danger (succeeded : r.status = .succeeded) (risk : r.safetyAssessment.riskLevel = .danger) :
      Routes r accepted r .dangerHandoff
  | pending (succeeded : r.status = .succeeded) (risk : r.safetyAssessment.riskLevel = .caution)
      (unsupported : r.evidenceReferences = []) : Routes r accepted r .customerInputPending
  | caution (succeeded : r.status = .succeeded) (risk : r.safetyAssessment.riskLevel = .caution)
      (evidence : r.evidenceReferences ≠ []) : Routes r accepted r .preSendHumanReview
  | general (succeeded : r.status = .succeeded) (risk : r.safetyAssessment.riskLevel = .general)
      (evidence : r.evidenceReferences ≠ []) : Routes r accepted r .autoGuidance

theorem apply_routes (r : SymptomAnalysisResult) (accepted : Option (List String)) :
    Routes r accepted (apply r accepted).1 (apply r accepted).2 := by
  unfold apply
  by_cases fallback : r.status = .fallback
  · rw [if_pos fallback]
    exact .existing fallback
  · have succeeded : r.status = .succeeded := by
      cases status : r.status with
      | succeeded => rfl
      | fallback => exact absurd status fallback
    have invalid : Routes r accepted (invalidSuccessFallback r) .failClosedConsultation :=
      .invalid succeeded
    rw [if_neg fallback]
    split
    · rename_i risk
      split
      · exact .danger succeeded risk
      · exact invalid
    · split
      · split
        · rename_i waits
          exact .pending succeeded waits.1 waits.2.2.2
        · exact invalid
      · split
        · rename_i risk
          split
          · rename_i supported
            exact .caution succeeded risk supported.1
          · exact invalid
        · split
          · rename_i risk
            split
            · rename_i supported
              exact .general succeeded risk supported.1
            · exact invalid
          · exact invalid

/-- A fallback goes through its normal form. -/
theorem apply_fallback (fallback : r.status = .fallback) :
    apply r accepted = (normalizeExistingFallback r, .failClosedConsultation) :=
  if_pos fallback

/-! ### Results of a fallback -/

/-- A fallback the Backend can hand to a consultant. -/
structure Closed (r : SymptomAnalysisResult) : Prop where
  fallback : r.status = .fallback
  requires : r.safetyAssessment.requiresConsultation = true
  stage : r.failureStage.isSome = true
  blocks : r.safetyAssessment.riskLevel = .danger ∨
    r.usageGuidance.guidanceStatus = .pendingConsultation

theorem normalize_closed (fallback : r.status = .fallback) :
    Closed (normalizeExistingFallback r) where
  fallback := fallback
  requires := by
    unfold normalizeExistingFallback
    dsimp only
    split
    · assumption
    · rfl
  stage := by
    unfold normalizeExistingFallback
    cases r.failureStage <;> rfl
  blocks := by
    unfold normalizeExistingFallback
    dsimp only
    have kept : (if r.safetyAssessment.requiresConsultation then r.safetyAssessment
        else { r.safetyAssessment with requiresConsultation := true }).riskLevel =
          r.safetyAssessment.riskLevel := by
      split <;> rfl
    rw [kept]
    by_cases risk : r.safetyAssessment.riskLevel = .danger
    · exact .inl risk
    · by_cases pending : r.usageGuidance.guidanceStatus = .pendingConsultation
      · rw [if_neg (fun h => h.2 pending)]
        exact .inr pending
      · rw [if_pos ⟨risk, pending⟩]
        exact .inr rfl

theorem invalid_closed : Closed (invalidSuccessFallback r) := by
  unfold invalidSuccessFallback
  dsimp only
  by_cases risk : r.safetyAssessment.riskLevel = .danger
  · rw [if_neg (not_not_intro risk)]
    exact ⟨rfl, rfl, rfl, .inl risk⟩
  · rw [if_pos risk]
    exact ⟨rfl, rfl, rfl, .inr rfl⟩

/-- The normal form of a closed fallback is the fallback itself. -/
theorem Closed.normalize (closed : Closed r) : normalizeExistingFallback r = r := by
  have ⟨stage, some_stage⟩ := Option.isSome_iff_exists.1 closed.stage
  have open_ : ¬(r.safetyAssessment.riskLevel ≠ .danger ∧
      r.usageGuidance.guidanceStatus ≠ .pendingConsultation) := fun h =>
    closed.blocks.elim h.1 h.2
  unfold normalizeExistingFallback
  dsimp only
  rw [if_pos closed.requires, if_neg open_, some_stage]
  cases r
  dsimp only at some_stage
  subst some_stage
  rfl

/-- A result that fails closed is closed. -/
theorem Routes.closed (routes : Routes r accepted r₁ .failClosedConsultation) : Closed r₁ := by
  cases routes with
  | existing fallback => exact normalize_closed fallback
  | invalid => exact invalid_closed

/-- No other result is replaced, and none is a fallback. -/
theorem Routes.kept (routes : Routes r accepted r₁ d) (sent : d ≠ .failClosedConsultation) :
    r₁ = r ∧ r₁.status = .succeeded := by
  cases routes with
  | existing | invalid => exact absurd rfl sent
  | danger succeeded | pending succeeded | caution succeeded | general succeeded =>
    exact ⟨rfl, succeeded⟩

theorem Routes.failClosed_iff (routes : Routes r accepted r₁ d) :
    d = .failClosedConsultation ↔ r₁.status = .fallback := by
  constructor
  · intro failed
    rw [failed] at routes
    exact routes.closed.fallback
  · intro fallback
    by_contra sent
    have succeeded := (routes.kept sent).2
    rw [fallback] at succeeded
    cases succeeded

theorem Routes.autoGuidance_iff (routes : Routes r accepted r₁ d) :
    d = .autoGuidance ↔ r₁.status = .succeeded ∧
      r₁.safetyAssessment.riskLevel = .general ∧ r₁.evidenceReferences ≠ [] := by
  cases routes with
  | existing fallback =>
    refine iff_of_false nofun fun general => ?_
    have same : r.status = .succeeded := general.1
    rw [fallback] at same
    cases same
  | invalid => exact iff_of_false nofun fun general => nomatch general.1
  | general succeeded risk evidence => exact iff_of_true rfl ⟨succeeded, risk, evidence⟩
  | danger _ risk | pending _ risk | caution _ risk =>
    refine iff_of_false nofun fun general => ?_
    rw [risk] at general
    cases general.2.1

theorem Routes.preSend_iff (routes : Routes r accepted r₁ d) :
    d = .preSendHumanReview ↔ r₁.status = .succeeded ∧
      r₁.safetyAssessment.riskLevel = .caution ∧ r₁.evidenceReferences ≠ [] := by
  cases routes with
  | existing fallback =>
    refine iff_of_false nofun fun caution => ?_
    have same : r.status = .succeeded := caution.1
    rw [fallback] at same
    cases same
  | invalid => exact iff_of_false nofun fun caution => nomatch caution.1
  | caution succeeded risk evidence => exact iff_of_true rfl ⟨succeeded, risk, evidence⟩
  | pending _ _ unsupported =>
    exact iff_of_false nofun fun caution => caution.2.2 unsupported
  | danger _ risk | general _ risk =>
    refine iff_of_false nofun fun caution => ?_
    rw [risk] at caution
    cases caution.2.1

/-- The policy leaves what it sends on. -/
theorem apply_apply (r : SymptomAnalysisResult) (accepted : Option (List String)) :
    apply (apply r accepted).1 accepted = apply r accepted := by
  have routes := apply_routes r accepted
  by_cases failed : (apply r accepted).2 = .failClosedConsultation
  · have closed : Closed (apply r accepted).1 := by
      rw [failed] at routes
      exact routes.closed
    rw [apply_fallback closed.fallback, closed.normalize]
    exact Prod.ext rfl failed.symm
  · rw [(routes.kept failed).1]

/-- The Backend announces a safe guidance only of a result sent on as one. -/
theorem Routes.safeGuidance (routes : Routes r accepted r₁ d)
    (safe : eventCandidate r₁ = some .safeGuidanceReady) : d = .autoGuidance := by
  refine routes.autoGuidance_iff.2 ?_
  unfold eventCandidate at safe
  split at safe
  · cases safe
  · split at safe
    · cases safe
    · split at safe
      · cases safe
      · split at safe
        · rename_i ready
          exact ⟨ready.1, ready.2.2.1, ready.2.1⟩
        · cases safe

end ResponseRoutingPolicy

theorem eventCandidate_danger {r : SymptomAnalysisResult}
    (danger : eventCandidate r = some .dangerDetected) :
    r.safetyAssessment.riskLevel = .danger := by
  unfold eventCandidate at danger
  split at danger
  · cases danger
  · split at danger
    · rename_i risk
      exact of_decide_eq_true risk
    · split at danger
      · cases danger
      · split at danger <;> cases danger

end WaterCare.Analysis
