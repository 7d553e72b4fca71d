import Mathlib.Data.List.Sort
import WaterCare.Analysis.Payload
import WaterCare.Machine.Result
import WaterCare.Py.Pattern
import WaterCare.Py.Value

/-!
The safety rules of the AI: what `rule_loader.py` accepts, the guidance that
`usage_guidance_classifier.py` makes of the matched rules, and what
`safety_rule_alignment_validator.py` expects of it. A rule is the dict that YAML gives:
the loader looks at some of its keys only.
-/

namespace WaterCare.Ai
open Store Analysis Machine Py

/-- A failed lookup or operation, a `ValueError`, a value that no member of an enumeration
has, or a model that pydantic refuses. -/
inductive RuleFault
  | raised (exn : Exn)
  | valueError (message : String)
  | noMember (enum : String)
  | validationError
  deriving DecidableEq, Repr

/-- The `rules` and the `no_evidence_policy` of `safety_rules.yaml`. Rules that are no dicts
do not pass the loader: they have no items by key. -/
structure SafetyRules where
  rules : List (Atom × Dict)
  noEvidencePolicy : Dict

namespace SafetyRules

/-! ### Codes -/

def priorityCode : SafetyPriority → String
  | .generalGuidance => "general_guidance"
  | .consultationRecommended => "consultation_recommended"
  | .priorityConsultation => "priority_consultation"

/-- `RiskLevel(value)`. -/
def riskLevelOf (value : Value) : Except RuleFault RiskLevel :=
  match [RiskLevel.general, .caution, .danger].find? fun risk => value.eqStr risk.code with
  | some risk => .ok risk
  | none => .error (.noMember "RiskLevel")

/-- `UsageGuidanceStatus(value)`. -/
def statusOf (value : Value) : Except RuleFault UsageGuidanceStatus :=
  match [UsageGuidanceStatus.normal, .partialStop, .totalStop, .pendingConsultation].find?
      fun status => value.eqStr status.code with
  | some status => .ok status
  | none => .error (.noMember "UsageGuidanceStatus")

/-- `SafetyPriority(value)`. -/
def priorityOf (value : Value) : Except RuleFault SafetyPriority :=
  match [SafetyPriority.generalGuidance, .consultationRecommended, .priorityConsultation].find?
      fun priority => value.eqStr (priorityCode priority) with
  | some priority => .ok priority
  | none => .error (.noMember "SafetyPriority")

def raising {α : Type} : Except Exn α → Except RuleFault α
  | .ok a => .ok a
  | .error exn => .error (.raised exn)

/-- `rule[key]`. -/
def item (rule : Dict) (key : String) : Except RuleFault Value := raising (rule.item key)

/-- `sorted(required.difference(entries))` as it is printed. -/
def missingKeys (entries : Dict) (required : List String) : List String :=
  (required.filter fun key => !entries.has key).insertionSort (· ≤ ·)

def printed (names : List String) : String := "[" ++ ", ".intercalate (names.map pyRepr) ++ "]"

/-! ### `SafetyRuleLoader._validate` -/

section
variable (isDecimal : Char → Bool)

/-- `SAFETY-[A-Z0-9]+(?:-[A-Z0-9]+)*-\d{3}`. -/
def ruleIdPattern : Pattern :=
  let part : Pattern := .plus (.one fun c => c.isUpper || c.isDigit)
  let digit : Pattern := .one isDecimal
  .all [.text "SAFETY-", part, .star (.seq (.char '-') part), .char '-', digit, digit, digit]

def requiredKeys : List String :=
  ["rule_id", "risk_level", "usage_guidance_status", "keywords", "requires_consultation"]

/-- One round of the loop over the rules, with the ids seen before. -/
def checkRule (seen : List String) (ruleKey : Atom) (rule : Dict) :
    Except RuleFault (List String) := do
  let refused (what : String) : RuleFault := .valueError ("안전 규칙 " ++ ruleKey.text ++ what)
  let missing := missingKeys rule requiredKeys
  require missing.isEmpty (refused (" 필수 키 누락: " ++ printed missing))
  let stableRuleId := (← item rule "rule_id").asStr?
  require (stableRuleId.any (ruleIdPattern isDecimal).fullmatch)
    (refused "의 rule_id 형식이 잘못되었습니다.")
  let ruleId := stableRuleId.getD ""
  require (!seen.contains ruleId) (.valueError ("중복 안전 rule_id입니다: " ++ ruleId))
  let risk ← item rule "risk_level" >>= riskLevelOf
  let status ← item rule "usage_guidance_status" >>= statusOf
  require (!(risk == .danger && status == .normal))
    (refused ": danger와 NORMAL을 함께 사용할 수 없습니다.")
  let applicability := rule.get "applicability_policy"
  require (applicability.isNone || applicability.eqStr "RUNTIME_APPROVED_PRODUCTS")
    (refused ": 적용 범위 정책이 잘못되었습니다.")
  let negated := rule.getD "negated_expressions" (.list [])
  require (negated.asList?.any (·.all fun expression => expression.asStr?.any hasText))
    (refused ": 부정 표현 목록이 잘못되었습니다.")
  let merge := rule.get "next_action_merge_policy"
  require (merge.isNone || merge.eqStr "EXCLUSIVE")
    (refused ": 다음 행동 병합 정책이 잘못되었습니다.")
  return seen ++ [ruleId]

def requiredNoEvidence : List String :=
  ["default_risk_level", "default_priority", "default_usage_guidance_status",
    "requires_consultation", "safety_reason", "message"]

def checkNoEvidence (policy : Dict) : Except RuleFault Unit := do
  let missing := missingKeys policy requiredNoEvidence
  require missing.isEmpty (.valueError ("근거 없음 정책 필수 키 누락: " ++ printed missing))
  let risk ← item policy "default_risk_level" >>= riskLevelOf
  let priority ← item policy "default_priority" >>= priorityOf
  let status ← item policy "default_usage_guidance_status" >>= statusOf
  require (risk == .caution) (.valueError "근거 없음 정책 위험도는 caution이어야 합니다.")
  require (priority == .consultationRecommended)
    (.valueError "근거 없음 정책 우선순위는 consultation_recommended여야 합니다.")
  require (status == .pendingConsultation)
    (.valueError "근거 없음 정책은 PENDING_CONSULTATION이어야 합니다.")
  require (← item policy "requires_consultation").isTrue
    (.valueError "근거 없음 정책은 상담 필요 상태여야 합니다.")

/-- `_validate`. -/
def validate (config : SafetyRules) : Except RuleFault Unit := do
  require (!config.rules.isEmpty)
    (.valueError "safety_rules.yaml에는 rules와 no_evidence_policy가 필요합니다.")
  let _ ← config.rules.foldlM (fun seen entry => checkRule isDecimal seen entry.1 entry.2) []
  checkNoEvidence config.noEvidencePolicy

end

/-! ### `rule_precedence.py` -/

/-- `_GUIDANCE_STATUS_PRECEDENCE`. -/
def statusPrecedence : UsageGuidanceStatus → Nat
  | .normal => 0
  | .pendingConsultation => 1
  | .partialStop => 2
  | .totalStop => 3

def precedence (rule : Dict) : Except RuleFault Nat := do
  let status ← item rule "usage_guidance_status" >>= statusOf
  return statusPrecedence status

/-- `rule.get("rule_id") in matched_ids`: what is not hashable cannot be looked up. -/
def isMatched (matchedRuleIds : List String) (rule : Dict) : Except RuleFault Bool := do
  let ruleId ← raising (rule.get "rule_id").hashed
  return matchedRuleIds.any fun matched => ruleId.eq (.str matched)

def candidates (config : SafetyRules) (matchedRuleIds : List String) (riskLevel : RiskLevel) :
    Except RuleFault (List Dict) :=
  (config.rules.map Prod.snd).filterM fun rule => do
    let isMatched ← isMatched matchedRuleIds rule
    return isMatched && (rule.get "risk_level").eqStr riskLevel.code

/-- The key that the effective rules are sorted by, `str(rule["rule_id"])`. -/
def sortKey (rule : Dict) : String := ((rule.get "rule_id").asStr?).getD ""

/-- `select_effective_safety_rules`. -/
def selectEffectiveSafetyRules (config : SafetyRules) (matchedRuleIds : List String)
    (riskLevel : RiskLevel) : Except RuleFault (List Dict) := do
  let candidates ← config.candidates matchedRuleIds riskLevel
  let precedences ← candidates.mapM precedence
  let highest := precedences.foldl max 0
  let effective := (candidates.zip precedences).filter fun both => both.2 == highest
  return (effective.map Prod.fst).insertionSort fun rule other => sortKey rule ≤ sortKey other

def isExclusive (rule : Dict) : Bool := (rule.get "next_action_merge_policy").eqStr "EXCLUSIVE"

/-- The rules that the field is read from: the exclusive ones alone speak for the next actions. -/
def selectedRules (rules : List Dict) (fieldName : String) : List Dict :=
  let exclusive := rules.filter isExclusive
  if fieldName == "next_actions" && !exclusive.isEmpty then exclusive else rules

def addItem (merged : List Value) (item : Value) : List Value :=
  if merged.any (·.eq item) then merged else merged ++ [item]

/-- `rule.get(field_name, [])`, as the loop visits it. -/
def fieldItems (fieldName : String) (rule : Dict) : Except RuleFault (List Value) :=
  raising (rule.getD fieldName (.list [])).iter

/-- `merge_rule_list_field`. -/
def mergeRuleListField (rules : List Dict) (fieldName : String) :
    Except RuleFault (List Value) := do
  let fields ← (selectedRules rules fieldName).mapM (fieldItems fieldName)
  return fields.flatten.foldl addItem []

/-! ### `UsageGuidanceClassifier.determine_guidance` -/

/-- `UsageGuidance(...)`, which takes texts only. -/
def usageGuidance (status : UsageGuidanceStatus) (message : Value)
    (restrictedFunctions nextActions : List Value) : Except RuleFault UsageGuidance :=
  match message.asStr?, restrictedFunctions.mapM Value.asStr?, nextActions.mapM Value.asStr? with
  | some message, some restricted, some actions => .ok ⟨status, message, restricted, actions⟩
  | _, _, _ => .error .validationError

/-- `NoEvidencePolicy.apply`. -/
def applyNoEvidence (policy : Dict) : Except RuleFault UsageGuidance := do
  let status ← item policy "default_usage_guidance_status" >>= statusOf
  let message ← item policy "message"
  usageGuidance status message [.str "근거 없는 자가조치 안내"]
    [.str "전문 상담사 연결을 요청해 주세요."]

/-- The restricted functions and the next actions where the rules name none. -/
def defaultRestrictions : List Value :=
  [.str "전체 출수 기능 중지", .str "제품 전원 차단 필요"]

def defaultActions : List Value :=
  [.str "원수 공급 밸브(원수 밸브)를 잠그세요.",
    .str "전원 플러그를 뽑고 사용을 즉시 중단하세요.", .str "전문 기사 방문 점검을 신청하세요."]

/-- `items or others`. -/
def orElse (items others : List Value) : List Value := if items.isEmpty then others else items

def dangerGuidance (config : SafetyRules) (matchedRuleIds : List String) :
    Except RuleFault UsageGuidance := do
  let message := Value.str "위험 신호가 감지되어 정수기 사용 제한 및 안전 조치가 필요합니다."
  match ← config.selectEffectiveSafetyRules matchedRuleIds .danger with
  | [] => usageGuidance .totalStop message defaultRestrictions defaultActions
  | first :: rest =>
      let status ← statusOf (first.getD "usage_guidance_status" (.str "TOTAL_STOP"))
      let restricted ← mergeRuleListField (first :: rest) "restricted_functions"
      let actions ← mergeRuleListField (first :: rest) "next_actions"
      usageGuidance status message (orElse restricted defaultRestrictions)
        (orElse actions defaultActions)

def determineGuidance (config : SafetyRules) (safety : SafetyAssessment) (hasEvidence : Bool) :
    Except RuleFault UsageGuidance :=
  if !hasEvidence && safety.riskLevel != .danger then applyNoEvidence config.noEvidencePolicy
  else
    match safety.riskLevel with
    | .danger => config.dangerGuidance safety.matchedSafetyRuleIds
    | .caution => .ok
        ⟨.partialStop,
          "일부 기능에 이상이 감지되었습니다. 관련 기능 확인 및 자가조치를 진행해 보세요.",
          ["해당 기능(냉수/온수/출수) 확인 필요"],
          ["안내된 자가조치 단계별 점검 수행", "증상 미개선 시 상담 연결"]⟩
    | .general => .ok
        ⟨.normal, "정수기를 정상적으로 사용하실 수 있습니다. 자가 점검 및 케어 가이드를 확인하세요.", [],
          ["기본 필터 및 사용 환경 유지", "정기 관리 일정 확인"]⟩

/-! ### `SafetyRuleAlignmentValidator.validate` -/

/-- `list == values`, where the list is one of texts. -/
def sameTexts (texts : List String) (values : List Value) : Bool :=
  Value.eqItems (texts.map .str) values

def align (config : SafetyRules) (safety : SafetyAssessment) (guidance : UsageGuidance) :
    Except RuleFault Unit := do
  if safety.riskLevel != .danger then return
  require safety.requiresConsultation
    (.valueError "danger 결과에는 즉시 상담 연결 판정이 필요합니다.")
  require (!safety.matchedSafetyRuleIds.isEmpty)
    (.valueError "danger 결과에는 승인 Safety Rule ID가 필요합니다.")
  let configured ← config.rules.mapM fun entry => raising (entry.2.get "rule_id").hashed
  require (safety.matchedSafetyRuleIds.all fun ruleId => configured.any (·.eq (.str ruleId)))
    (.valueError "danger 결과에 승인되지 않은 Safety Rule ID가 있습니다.")
  match ← config.selectEffectiveSafetyRules safety.matchedSafetyRuleIds .danger with
  | [] => .error (.valueError "danger 결과의 Safety Rule ID가 승인 설정에 없습니다.")
  | first :: rest =>
      require ((first :: rest).all fun rule => (rule.get "requires_consultation").isTrue)
        (.valueError "danger Safety Rule은 상담 연결을 요구해야 합니다.")
      let expectedPriority ← item first "priority" >>= priorityOf
      let expectedStatus ← item first "usage_guidance_status" >>= statusOf
      let expectedRestrictions ← mergeRuleListField (first :: rest) "restricted_functions"
      let expectedActions ← mergeRuleListField (first :: rest) "next_actions"
      require (safety.priority == expectedPriority)
        (.valueError "danger 우선순위가 승인 Safety Rule과 다릅니다.")
      require (guidance.guidanceStatus == expectedStatus)
        (.valueError "danger 안내 상태가 승인 Safety Rule과 다릅니다.")
      require (sameTexts guidance.restrictedFunctions expectedRestrictions)
        (.valueError "danger 제한 기능이 승인 Safety Rule과 다릅니다.")
      require (sameTexts guidance.nextActions expectedActions)
        (.valueError "danger 다음 행동이 승인 Safety Rule과 다릅니다.")

end SafetyRules
end WaterCare.Ai
