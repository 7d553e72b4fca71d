import WaterCare.Ai.SymptomStructurer
import WaterCare.Analysis.Payload

/-!
What a run asks of the customer: the fields that a structured symptom lacks, the gate of the
evidence that holds under a condition only, and the questions for both, without those that were
answered before.
-/

namespace WaterCare.Ai.Clarification
open Store Analysis Machine Py SymptomStructurer

/-- The fields that are asked for. -/
inductive TargetField
  | occurrenceTime
  | targetWaterType
  | occurrenceCondition
  | actionsTaken
  | tasteOdorApplicability
  deriving DecidableEq, Repr

def TargetField.name : TargetField → String
  | .occurrenceTime => "occurrence_time"
  | .targetWaterType => "target_water_type"
  | .occurrenceCondition => "occurrence_condition"
  | .actionsTaken => "actions_taken"
  | .tasteOdorApplicability => "taste_odor_applicability"

/-! ### `missing_field_checker.py` -/

inductive Importance
  | high
  | medium
  | low
  deriving DecidableEq, Repr

structure MissingField where
  field : TargetField
  reason : String
  importance : Importance
  deriving DecidableEq, Repr

/-- `_DEFAULT_FIELD_RULES`. -/
def defaultFieldRules : List MissingField :=
  [⟨.occurrenceTime, "증상이 시작된 시점을 확인하면 도움이 됩니다.", .medium⟩,
    ⟨.targetWaterType, "영향을 받는 출수 종류를 확인해야 합니다.", .medium⟩,
    ⟨.occurrenceCondition, "증상이 발생하는 조건이나 지속 여부를 확인해야 합니다.", .medium⟩]

/-- `_FIELD_RULES_BY_SYMPTOM`. -/
def fieldRulesBySymptom : List (String × List MissingField) :=
  [("제품 누수", []),
    ("전기 이상", []),
    ("온도 이상",
      [⟨.occurrenceTime, "증상이 시작된 시점을 확인하면 도움이 됩니다.", .medium⟩,
        ⟨.targetWaterType, "냉수 또는 온수 중 영향을 받는 출수를 확인해야 합니다.", .high⟩,
        ⟨.occurrenceCondition, "온도 이상이 지속되는 조건을 확인해야 합니다.", .medium⟩]),
    ("출수량 저하",
      [⟨.occurrenceTime, "증상이 시작된 시점이 필요합니다.", .medium⟩,
        ⟨.targetWaterType, "출수량이 저하된 출수 종류를 확인해야 합니다.", .high⟩,
        ⟨.occurrenceCondition, "출수량이 저하되는 조건을 확인해야 합니다.", .medium⟩]),
    ("소음 이상",
      [⟨.occurrenceTime, "소음이 시작된 시점을 확인해야 합니다.", .medium⟩,
        ⟨.occurrenceCondition, "소음이 발생하는 동작이나 조건을 확인해야 합니다.", .high⟩]),
    ("물맛/냄새 이상",
      [⟨.occurrenceTime, "맛·냄새 이상이 시작된 시점을 확인해야 합니다.", .high⟩,
        ⟨.targetWaterType, "영향을 받는 출수 종류를 확인해야 합니다.", .medium⟩]),
    ("필터/관리 문의",
      [⟨.occurrenceTime, "문의가 시작된 시점을 확인해야 합니다.", .medium⟩,
        ⟨.occurrenceCondition, "관리 문의의 발생 조건을 확인해야 합니다.", .medium⟩])]

def fieldRules (symptomType : Text) : List MissingField :=
  match fieldRulesBySymptom.find? fun entry => entry.1.toList == symptomType with
  | some entry => entry.2
  | none => defaultFieldRules

/-- `getattr(symptom, field_name)`, of the fields that the rules name. -/
def valueOf (symptom : StructuredSymptom) : TargetField → Option Text
  | .occurrenceTime => symptom.occurrenceTime
  | .targetWaterType => symptom.targetWaterType
  | .occurrenceCondition => symptom.occurrenceCondition
  | .actionsTaken | .tasteOdorApplicability => none

/-- `in (None, "")`. -/
def isBlank (value : Option Text) : Bool := value.all (·.isEmpty)

def actionsMissing : MissingField :=
  ⟨.actionsTaken, "이미 수행한 확인이나 조치가 있는지 확인해야 합니다.", .low⟩

/-- `MissingFieldChecker.check`. -/
def check (symptom : StructuredSymptom) : List MissingField :=
  (fieldRules symptom.symptomType).filter (fun rule => isBlank (valueOf symptom rule.field)) ++
    if symptom.actionsTaken.isEmpty &&
        !(["제품 누수".toList, "전기 이상".toList].contains symptom.symptomType) then
      [actionsMissing]
    else []

/-! ### `evidence_applicability_gate.py` -/

inductive EvidenceApplicability
  | absenceWithin10Days
  | absenceOver10Days
  | longUnused
  | unsuitableInstallation
  | notApplicable
  | unknown
  deriving DecidableEq, Repr

namespace EvidenceApplicability

def providerLabel : EvidenceApplicability → Option String
  | absenceWithin10Days => some "10일 이내 부재 후"
  | absenceOver10Days => some "10일 이상 부재 후"
  | longUnused => some "장시간 미사용 후"
  | unsuitableInstallation => some "부적합 장소 설치 후"
  | notApplicable => none
  | unknown => none

def questionnaireLabel : EvidenceApplicability → String
  | notApplicable => "해당 없음"
  | unknown => "확인 불가"
  | other => other.providerLabel.getD "확인 불가"

end EvidenceApplicability

/-- `QUESTION_ID` of the gate. -/
def applicabilityQuestionId : String := "followup-taste-odor-applicability"

/-- `_TASTE_OR_ODOR_SYMPTOM`. -/
def tasteOrOdorSymptom : Text := "물맛/냄새 이상".toList

/-- `SUPPORTED_CONDITIONS`. -/
def supportedConditions : List EvidenceApplicability :=
  [.absenceWithin10Days, .absenceOver10Days, .longUnused, .unsuitableInstallation]

/-- `_ANSWER_OPTIONS`. -/
def answerOptions : List (String × EvidenceApplicability) :=
  [("10일 이내 부재 후", .absenceWithin10Days), ("10일 이상 부재 후", .absenceOver10Days),
    ("장시간 미사용 후", .longUnused), ("부적합 장소 설치 후", .unsuitableInstallation),
    ("해당 없음", .notApplicable), ("확인 불가", .unknown)]

/-- `_INTENTIONAL_NON_ANSWERS` of the gate. -/
def refusals : List Text := ["답변하지 않음", "답변 거절", "모름", "모르겠음"].map String.toList

/-- `_REQUIRED_FIELDS_BY_SYMPTOM_TYPE`. -/
def requiredFields (symptomType : Text) : List TargetField :=
  if symptomType = tasteOrOdorSymptom then
    [.occurrenceTime, .targetWaterType, .actionsTaken, .tasteOdorApplicability]
  else []

/-- `required_missing_fields` of the gate, as a list. -/
def gateMissingFields (symptomType : Text) (missing : List TargetField) : List TargetField :=
  (requiredFields symptomType).filter missing.contains

section Gate
variable (nfc : Text → Text)

/-- `classify`: the last answer to the question of the gate counts. -/
def classify (previousAnswers : List PreviousAnswer) : Option EvidenceApplicability :=
  match previousAnswers.reverse.find? (·.questionId == applicabilityQuestionId) with
  | none => none
  | some answer =>
      let normalized := stripChars (nfc answer.answerText)
      if normalized ∈ refusals then some .unknown
      else (answerOptions.find? fun option => option.1.toList == normalized).map Prod.snd

def classifyForSymptom (symptomType : Text) (previousAnswers : List PreviousAnswer) :
    Option EvidenceApplicability :=
  if symptomType = tasteOrOdorSymptom then classify nfc previousAnswers else none

/-- `applicability in SUPPORTED_CONDITIONS`. -/
def supported (applicability : Option EvidenceApplicability) : Bool :=
  applicability.any supportedConditions.contains

def requiresMoreInformation (symptomType : Text) (missing : List TargetField)
    (previousAnswers : List PreviousAnswer) : Bool :=
  !(gateMissingFields symptomType missing).isEmpty ||
    (symptomType == tasteOrOdorSymptom && !supported (classify nfc previousAnswers))

def applicabilityQuestion : FollowUpQuestion where
  questionId := applicabilityQuestionId
  questionText := "맛·냄새 이상이 장기 부재, 장시간 미사용 또는 설치 장소 문제 후 시작됐나요?"
  options := answerOptions.map Prod.fst
  targetField := TargetField.tasteOdorApplicability.name

/-- `followup_question`. -/
def followupQuestion (symptomType : Text) (previousAnswers : List PreviousAnswer) :
    Option FollowUpQuestion :=
  if symptomType = tasteOrOdorSymptom ∧ (classify nfc previousAnswers).isNone then
    some applicabilityQuestion
  else none

end Gate

/-! ### `followup_question_generator.py` -/

/-- `_QUESTIONS`. -/
def questions : TargetField → Option (String × List String)
  | .occurrenceTime => some ("증상은 언제부터 시작됐나요?", ["오늘", "어제", "2~3일 전", "일주일 이상 전"])
  | .targetWaterType => some ("어떤 출수에서 증상이 발생하나요?", ["냉수", "온수", "정수", "전체"])
  | .occurrenceCondition => some ("증상은 언제 또는 어떤 조건에서 발생하나요?",
      ["항상", "간헐적으로", "출수 버튼을 누를 때", "특정 기능 사용 중"])
  | .actionsTaken => some ("이미 확인하거나 조치해 본 내용이 있나요?",
      ["없음", "전원 재부팅", "원수 밸브 확인", "필터 확인"])
  | .tasteOdorApplicability => none

/-- `f"followup-{field_name.replace('_', '-')}"`. -/
def questionId (field : TargetField) : String :=
  "followup-" ++ String.ofList (field.name.toList.map fun c => if c = '_' then '-' else c)

/-- `_fixed_questions`. -/
def fixedQuestions (missing : List MissingField) : List FollowUpQuestion :=
  missing.filterMap fun item => (questions item.field).map fun definition =>
    ⟨questionId item.field, definition.1, definition.2, item.field.name⟩

/-- What the language model words anew of the fixed questions: the text and the options that the
validation lets through, for each question. -/
abbrev Wording := FollowUpQuestion → Option (String × List String)

/-- `_validate_wordings`, of one question. -/
def reword (wording : Wording) (fixed : FollowUpQuestion) : FollowUpQuestion :=
  match wording fixed with
  | none => fixed
  | some (text, options) => { fixed with questionText := text, options := options }

/-- `FollowUpQuestionGenerator.generate`. -/
def generate (wording : Wording) (missing : List MissingField) : List FollowUpQuestion :=
  (fixedQuestions missing).map (reword wording)

/-! ### `duplicate_question_guard.py` -/

/-- `_QUESTION_FIELD_MAP` of the guard. -/
def questionFieldMap : List (String × TargetField) :=
  [("followup-occurrence-time", .occurrenceTime),
    ("followup-target-water-type", .targetWaterType),
    ("followup-occurrence-condition", .occurrenceCondition),
    ("followup-actions-taken", .actionsTaken),
    ("followup-taste-odor-applicability", .tasteOdorApplicability)]

def fieldOfQuestion (questionId : String) : Option TargetField :=
  (questionFieldMap.find? (·.1 == questionId)).map Prod.snd

/-- `answer["answer_text"].strip()` is not empty. -/
def isAnswered (answer : PreviousAnswer) : Bool := !(stripChars answer.answerText).isEmpty

/-- `answered_target_fields`, as a list. -/
def answeredTargetFields (previousAnswers : List PreviousAnswer) : List TargetField :=
  (previousAnswers.filter isAnswered).filterMap fun answer => fieldOfQuestion answer.questionId

def answeredIds (previousAnswers : List PreviousAnswer) : List String :=
  (previousAnswers.filter isAnswered).map (·.questionId)

/-- Whether a question was answered before, by its id or by its field. -/
def wasAnswered (previousAnswers : List PreviousAnswer) (question : FollowUpQuestion) : Bool :=
  (answeredIds previousAnswers).contains question.questionId ||
    (answeredTargetFields previousAnswers).any (·.name == question.targetField)

/-- The loop of `DuplicateQuestionGuard.filter`: of the questions for one field the first. -/
def filterFrom (previousAnswers : List PreviousAnswer) :
    List String → List FollowUpQuestion → List FollowUpQuestion
  | _, [] => []
  | seen, question :: rest =>
      if wasAnswered previousAnswers question || seen.contains question.targetField then
        filterFrom previousAnswers seen rest
      else question :: filterFrom previousAnswers (question.targetField :: seen) rest

/-- `DuplicateQuestionGuard.filter`. -/
def filterQuestions (questions : List FollowUpQuestion) (previousAnswers : List PreviousAnswer) :
    List FollowUpQuestion :=
  filterFrom previousAnswers [] questions

/-! ### `missing_fields_stage.py` -/

/-- What the stage leaves. -/
structure Clarified where
  symptom : StructuredSymptom
  missingFields : List MissingField
  followupQuestions : List FollowUpQuestion

def applicabilityMissing : MissingField :=
  ⟨.tasteOdorApplicability,
    "물맛·냄새 공식 근거의 장기 부재·미사용·설치 조건을 확인해야 합니다.", .medium⟩

section Stage
variable (nfc : Text → Text) (wording : Wording)

/-- The symptom with the condition that the customer chose. -/
def withApplicability (symptom : StructuredSymptom) (previousAnswers : List PreviousAnswer) :
    StructuredSymptom :=
  match classifyForSymptom nfc symptom.symptomType previousAnswers with
  | none => symptom
  | some applicability =>
      { symptom with occurrenceCondition := some applicability.questionnaireLabel.toList }

/-- `ctx.missing_fields` after the stage. -/
def missingOf (symptom : StructuredSymptom) (previousAnswers : List PreviousAnswer) :
    List MissingField :=
  let missing := check symptom
  if symptom.symptomType = tasteOrOdorSymptom ∧
      supported (classifyForSymptom nfc symptom.symptomType previousAnswers) = false then
    missing.filter (·.field != .occurrenceCondition) ++ [applicabilityMissing]
  else missing

/-- `execute_missing_fields_stage`. -/
def missingFieldsStage (symptom : StructuredSymptom) (previousAnswers : List PreviousAnswer) :
    Clarified :=
  let symptom := withApplicability nfc symptom previousAnswers
  let missing := missingOf nfc symptom previousAnswers
  let kept := filterQuestions (generate wording missing) previousAnswers
  ⟨symptom, missing, kept ++ (followupQuestion nfc symptom.symptomType previousAnswers).toList⟩

end Stage

/-! ### `clarification_policy.py` -/

/-- `required_missing_fields`, as a list. -/
def requiredMissingFields (symptomType : Text) (missing : List MissingField) : List TargetField :=
  (missing.filter (·.importance == .high)).map (·.field) ++
    gateMissingFields symptomType (missing.map (·.field))

/-- `unresolved_answered_required_fields`, as a list. -/
def unresolvedAnsweredRequiredFields (symptomType : Text) (missing : List MissingField)
    (previousAnswers : List PreviousAnswer) : List TargetField :=
  (requiredMissingFields symptomType missing).filter (answeredTargetFields previousAnswers).contains

/-- `should_wait_for_customer_input`. -/
def shouldWaitForCustomerInput (nfc : Text → Text) (risk : RiskLevel) (symptomType : Text)
    (missing : List MissingField) (previousAnswers : List PreviousAnswer) : Bool :=
  if risk = .danger then false
  else
    requiresMoreInformation nfc symptomType (missing.map (·.field)) previousAnswers ||
      !(requiredMissingFields symptomType missing).isEmpty

end WaterCare.Ai.Clarification
