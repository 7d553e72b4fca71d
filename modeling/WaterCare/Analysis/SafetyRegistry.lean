import WaterCare.Analysis.Payload

/-!
`inquiries/services/safety_rule_registry.py` over the shipped registry, and the
business invariants of `integrations/ai/response_mapper.py` that rest on it.
-/

namespace WaterCare.Analysis
open Store Workflow

/-- A rule of `contracts/codes/safety-rule-ids.yaml`. -/
structure RegistryRule where
  ruleId : String
  active : Bool
  riskLevel : RiskLevel
  requiresConsultation : Bool
  defaultGuidanceStatus : UsageGuidanceStatus
  allowedGuidanceStatuses : List UsageGuidanceStatus
  dangerEventEnabled : Bool
  exclusive : Bool
  restrictedFunctions : Option (List String)
  nextActions : Option (List String)
  deriving DecidableEq

/-- The rules of the shipped registry, in their order. -/
def safetyRuleRegistry : List RegistryRule :=
  [ ⟨"SAFETY-LEAK-001", true, .danger, true, .totalStop, [.totalStop], true, false, none, none⟩,
    ⟨"SAFETY-ELECTRICAL-001", true, .danger, true, .totalStop, [.totalStop], true, false,
      none, none⟩,
    ⟨"SAFETY-HOT-WATER-001", true, .danger, true, .partialStop, [.partialStop], false, false,
      none, none⟩,
    ⟨"SAFETY-HOT-WATER-HEATER-001", true, .danger, true, .partialStop, [.partialStop, .totalStop],
      true, false, some ["온수 출수 및 음용 중지"],
      some ["온수 기능 사용과 온수 음용을 중단하세요.",
        "제품을 직접 분해하지 말고 전문 상담 및 기사 점검을 요청하세요."]⟩,
    ⟨"SAFETY-REFRIGERANT-001", true, .danger, true, .totalStop, [.totalStop], true, true,
      some ["제품 전체 기능 사용 중지", "제품 및 전원 코드 접촉 금지"],
      some ["제품이나 전원 코드를 만지지 마세요.",
        "불꽃이나 스파크를 일으킬 수 있는 행동을 피하세요.",
        "제품을 만지지 않고 가능한 경우 창문을 열어 충분히 환기하세요.",
        "안전한 장소로 이동한 뒤 전문 상담 및 기사 점검을 요청하세요."]⟩,
    ⟨"SAFETY-TEMP-ABNORMAL-001", true, .caution, false, .partialStop, [.partialStop], false, false,
      none, none⟩ ]

/-- `registry.get(rule_id)`. -/
def registryRule (ruleId : String) : Option RegistryRule :=
  safetyRuleRegistry.find? fun rule => decide (rule.ruleId = ruleId)

/-- A rule whose match may raise a danger event. -/
def RegistryRule.dangerEnabled (rule : RegistryRule) : Bool :=
  rule.active && rule.dangerEventEnabled && decide (rule.riskLevel = .danger) &&
    rule.requiresConsultation

/-- The loop over the matched identifiers: their rules, or the first not enabled. -/
def matchedRules : List String → Except String (List RegistryRule)
  | [] => .ok []
  | ruleId :: rest =>
      match registryRule ruleId with
      | some rule =>
          if rule.dangerEnabled then (rule :: ·) <$> matchedRules rest
          else .error (ruleId ++ ": the danger rule is not enabled")
      | none => .error (ruleId ++ ": the danger rule is not enabled")

/-- The strictest default status of the matched rules. -/
def strictestStatus (rules : List RegistryRule) : UsageGuidanceStatus :=
  if rules.any fun rule => decide (rule.defaultGuidanceStatus = .totalStop) then .totalStop
  else .partialStop

/-- The actions of the exclusive rules, without repetitions. -/
def exclusiveActions (rules : List RegistryRule) : List String :=
  ((rules.filter (·.exclusive)).flatMap fun rule => rule.nextActions.getD []).reverse.dedup.reverse

/-- `danger_assessment_validation_errors`. -/
def dangerAssessmentErrors (safety : SafetyAssessment) (guidance : UsageGuidance)
    (requireGuidanceDetails : Bool) : List String :=
  let ids := safety.matchedSafetyRuleIds
  if safety.riskLevel ≠ .danger ∨ safety.requiresConsultation = false ∨ ids = [] ∨ ¬ids.Nodup then
    ["danger requires consultation and unique approved Safety Rule IDs"]
  else
    match matchedRules ids with
    | .error message => [message]
    | .ok rules =>
        let expected := strictestStatus rules
        if guidance.guidanceStatus ≠ expected then
          ["danger guidance must follow the strictest matched Safety Rule"]
        else if rules.any fun rule =>
            !rule.allowedGuidanceStatuses.contains guidance.guidanceStatus then
          ["danger guidance is not allowed by every matched Safety Rule"]
        else if requireGuidanceDetails && rules.any (·.exclusive) &&
            decide (guidance.nextActions ≠ exclusiveActions rules) then
          ["danger next_actions differ from the exclusive approved rule"]
        else if requireGuidanceDetails && decide (expected = .partialStop) then
          match rules with
          | [rule] =>
              if rule.restrictedFunctions ≠ some guidance.restrictedFunctions then
                ["partial-stop restricted_functions differ from the approved rule"]
              else if rule.nextActions ≠ some guidance.nextActions then
                ["partial-stop next_actions differ from the approved rule"]
              else []
          | _ => ["partial-stop danger requires one unambiguous approved rule"]
        else []

/-- `danger_assessment_is_valid`. -/
def dangerAssessmentIsValid (r : SymptomAnalysisResult) : Bool :=
  (dangerAssessmentErrors r.safetyAssessment r.usageGuidance true).isEmpty

/-! ### Mapping a response -/

/-- The business invariants `_map_public_success_response` checks, as the
messages it collects. -/
def responseErrors (r : SymptomAnalysisResult) : List String :=
  (if r.isFallback && r.failureStage.isNone then
    ["failure_stage: FALLBACK에는 실패 단계가 필요합니다."] else []) ++
  (if r.isNoEvidence && (!r.safetyAssessment.requiresConsultation ||
      decide (r.usageGuidance.guidanceStatus ≠ .pendingConsultation)) then
    ["NO_EVIDENCE: 상담 필요와 PENDING_CONSULTATION이 필요합니다."] else []) ++
  (if r.isProductValidationFailed && (!r.evidenceReferences.isEmpty ||
      !r.safetyAssessment.requiresConsultation ||
      (!r.isDanger && decide (r.usageGuidance.guidanceStatus ≠ .pendingConsultation))) then
    ["RUNTIME_PRODUCT_NOT_APPROVED: 제품 Echo, 근거 미조회, 상담 필요와 안전 안내 상태가 필요합니다."]
    else []) ++
  if r.isDanger then
    (dangerAssessmentErrors r.safetyAssessment r.usageGuidance true).map ("danger: " ++ ·)
  else []

/-- `event_candidate`. -/
def eventCandidate (r : SymptomAnalysisResult) : Option EventCode :=
  if r.isProductValidationFailed then some .productValidationFailed
  else if r.isDanger then some .dangerDetected
  else if r.isNoEvidence then some .noEvidence
  else if r.status = .succeeded ∧ r.evidenceReferences ≠ [] ∧
      r.safetyAssessment.riskLevel = .general ∧ r.safetyAssessment.requiresConsultation = false ∧
      r.usageGuidance.guidanceStatus = .normal ∧ r.missingFields = [] ∧
      r.followupQuestions = [] then
    some .safeGuidanceReady
  else none

end WaterCare.Analysis
