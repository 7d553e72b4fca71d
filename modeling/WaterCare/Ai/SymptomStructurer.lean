import WaterCare.Ai.SignalDetector
import WaterCare.Ai.SymptomNormalizer
import WaterCare.Machine.Result

/-!
`symptom_structurer.py`: the structured symptom that the rules read out of a customer's texts, and
what of a language model's candidate is taken into it.
-/

namespace WaterCare.Ai.SymptomStructurer
open Machine Py SymptomNormalizer SignalDetector

/-- A text, by its characters. -/
abbrev Text := List Char

/-! ### The data -/

structure StructuredSymptom where
  symptomType : Text
  occurrenceTime : Option Text
  targetWaterType : Option Text
  occurrenceCondition : Option Text
  errorCode : Option Text
  accompanyingSymptoms : List Text
  actionsTaken : List Text
  deriving DecidableEq, Repr

inductive FieldName
  | symptomType
  | occurrenceTime
  | targetWaterType
  | occurrenceCondition
  | errorCode
  | accompanyingSymptoms
  | actionsTaken
  deriving DecidableEq, Repr

inductive ClaimSource
  | rawSymptom
  | selectedSymptom
  | previousAnswer
  deriving DecidableEq, Repr

structure SymptomEvidenceClaim where
  fieldName : FieldName
  value : Text
  source : ClaimSource
  evidenceQuote : Text
  deriving DecidableEq, Repr

/-- A previous answer; a key that is missing is read as an empty text. -/
structure PreviousAnswer where
  questionId : String
  answerText : Text
  deriving DecidableEq, Repr

inductive SignalSource
  | rawSymptom
  | previousAnswer
  deriving DecidableEq, Repr

structure SafetySignalEvidence where
  signalName : Signal
  evidenceQuote : Text
  source : SignalSource
  deriving DecidableEq, Repr

structure SafetySignals where
  isSet : Signal → Bool
  evidence : List SafetySignalEvidence

/-- What the language model answers. -/
structure LLMResponse where
  output : StructuredSymptom
  evidenceClaims : List SymptomEvidenceClaim
  safetySignals : SafetySignals

/-- How a call of the client ends. -/
inductive LLMCall
  | failed
  | answered (response : LLMResponse)

inductive Fault
  /-- A model that pydantic refuses. -/
  | validationError
  | valueError (message : String)
  deriving DecidableEq, Repr

/-- `ALLOWED_SYMPTOM_TYPES`. -/
def allowedSymptomTypes : List Text := symptomLabels

/-- `ALLOWED_WATER_TYPES`. -/
def allowedWaterTypes : List Text := ["냉수", "온수", "정수", "전체"].map String.toList

/-- `_QUESTION_FIELD_MAP`. -/
def questionField (questionId : String) : Option FieldName :=
  if questionId = "followup-occurrence-time" then some .occurrenceTime
  else if questionId = "followup-target-water-type" then some .targetWaterType
  else if questionId = "followup-occurrence-condition" then some .occurrenceCondition
  else if questionId = "followup-actions-taken" then some .actionsTaken
  else none

/-- `_INTENTIONAL_NON_ANSWERS`. -/
def intentionalNonAnswers : List Text :=
  ["답변하지 않음", "답변 거절", "모름", "모르겠음", "확인 불가"].map String.toList

/-! ### Answers -/

section Answers
variable (u : Unicode)

/-- `_PRIVATE_ANSWER_PATTERNS`. -/
def privateAnswers : List Pattern :=
  let digit : Pattern := .one u.isDigit
  let noDigitBefore : Pattern := .notBehind u.isDigit
  let noDigitAfter : Pattern := .notAhead digit
  let isLetter (c : Char) : Bool := c.isAlpha
  let joint : Pattern := .opt (.one fun c => c == '-' || isSpace c)
  let letter (c : Char) : Pattern := .one fun d => d == c || d == c.toUpper
  [.all [noDigitBefore, .opt (.all [.opt (.char '+'), .text "82", joint]), .char '0',
      .between 1 2 digit, joint, .between 3 4 digit, joint, .between 4 4 digit, noDigitAfter],
    .all [.plus (.one fun c => isLetter c || c.isDigit || "._%+-".toList.contains c), .char '@',
      .plus (.one fun c => isLetter c || c.isDigit || ".-".toList.contains c), .char '.',
      .atLeast 2 (.one isLetter)],
    .all [noDigitBefore, .between 6 6 digit, .opt (.char '-'), .among "1234", .between 6 6 digit,
      noDigitAfter],
    -- Without regard to case, a long s is an s.
    .all [letter 'h', letter 't', letter 't', letter 'p',
      .opt (.or (letter 's') (.one fun c => c.toNat == 0x17F)), .text "://",
      .plus (.one fun c => !isSpace c)]]

/-- `_UNSAFE_ANSWER_PATTERN`. -/
def unsafeAnswer : Pattern :=
  .all [.opt (.all [.text "직접", .spaces]),
    .any [.texts ["분해", "수리"], .all [.text "배선", .spaces, .text "작업"],
      .all [.text "전기", .spaces, .text "작업"],
      .all [.text "전선", .opt (.text "을"), .spaces, .texts ["자르", "연결", "교체"]]]]

/-- A word for a time, in an answer that has none of `extract_occurrence_time`. -/
def timeWord : Pattern :=
  .any [.texts ["오늘", "어제", "그제", "방금", "최근", "처음"],
    .all [.text "설치", .upTo 4 .dot, .texts ["직후", "후"]],
    .all [.plus (.one u.isDigit), .spaces,
      .texts ["분", "시간", "일", "주", "개월", "달", "년"], .spaces,
      .opt (.texts ["전", "째", "이상", "부터"])]]

def conditionWord : Pattern :=
  .any [.texts ["항상", "간헐", "가끔", "계속", "출수", "버튼", "사용", "대기", "연속", "특정", "처음",
      "잠시", "반복"],
    .all [.boundary u.isWord, .text "때", .boundary u.isWord],
    .all [.text "중", .opt (.texts ["에", "에도"])], .all [.text "후", .opt (.texts ["에", "에도"])],
    .all [.text "전", .opt (.texts ["에", "부터"])], .text "부터"]

def actionWord : Pattern :=
  .any [.text "없", .all [.text "안", .spaces, .text "함"], .all [.text "하지", .spaces, .text "않"],
    .all [.text "아직", .spaces, .texts ["조치", "확인", "시도"]],
    .all [.text "전원", .upTo 8 .dot, .texts ["재부팅", "껐", "켰", "확인"]], .text "재부팅",
    .all [.text "원수", .spaces, .text "밸브", .upTo 8 .dot, .text "확인"],
    .all [.text "필터", .upTo 8 .dot, .texts ["확인", "청소", "교체"]],
    .all [.any [.texts ["출수", "온도", "소음"], .all [.text "제품", .spaces, .text "상태"]],
      .upTo 8 .dot, .texts ["확인", "살펴"]],
    .all [.texts ["고객센터", "상담"], .upTo 8 .dot, .text "문의"],
    .all [.text "점검", .spaces, .text "신청"]]

/-- `_validated_previous_answer`. -/
def validatedPreviousAnswer (fieldName : FieldName) (answerText : Text) : Option Text :=
  let value := stripChars answerText
  if value.isEmpty || 200 < value.length || value.contains '\n' ||
      (privateAnswers u).any (·.within value) || unsafeAnswer.within value then none
  else
    match fieldName with
    | .occurrenceTime =>
        if (extractOccurrenceTime u value).isSome || (timeWord u).within value then some value
        else none
    | .targetWaterType => (normalizeWaterType value).filter (· ∈ allowedWaterTypes)
    | .occurrenceCondition => if (conditionWord u).within value then some value else none
    | .actionsTaken => if actionWord.within value then some value else none
    | _ => none

/-- The answers that give a value to a field, in their order. -/
def answersTo (fieldName : FieldName) (previousAnswers : List PreviousAnswer) : List Text :=
  previousAnswers.filterMap fun answer =>
    let answerText := stripChars answer.answerText
    if questionField answer.questionId = some fieldName ∧ answerText ∉ intentionalNonAnswers then
      validatedPreviousAnswer u fieldName answerText
    else none

/-- `answer_by_field.get(field_name)`: of several answers the last. -/
def answerByField (fieldName : FieldName) (previousAnswers : List PreviousAnswer) : Option Text :=
  (answersTo u fieldName previousAnswers).getLast?

end Answers

/-! ### The rules -/

section Rules
variable (u : Unicode)

/-- `_validated_selected_symptoms`. -/
def validatedSelectedSymptoms (values : List Text) : List Text :=
  (values.filter fun value => (canonicalSelectedSymptom u value).isSome).eraseDups

/-- `_structure_with_rules`. -/
def structureWithRules (rawText : Text) (selected : List Text) (previous : List PreviousAnswer) :
    StructuredSymptom where
  symptomType := normalizeSymptomType u rawText selected
  occurrenceTime :=
    (answerByField u .occurrenceTime previous).or (extractOccurrenceTime u rawText)
  targetWaterType :=
    (normalizeWaterType rawText).or (answerByField u .targetWaterType previous)
  occurrenceCondition :=
    (answerByField u .occurrenceCondition previous).or (extractOccurrenceCondition rawText)
  errorCode := extractErrorCode u rawText
  accompanyingSymptoms := validatedSelectedSymptoms u selected
  actionsTaken := (answersTo u .actionsTaken previous).foldl
    (fun actions answer => if answer ∈ actions then actions else actions ++ [answer])
    (extractActions rawText)

end Rules

/-! ### The evidence of a claim -/

section Claims
variable (u : Unicode)

/-- `_normalize_evidence_text`. -/
def normalizeEvidenceText (value : Text) : Text :=
  stripChars ((Pattern.plus .space).sub (fun _ => [' ']) (u.casefold (u.nfkc value)))

/-- What customers wrote, as far as a claim may quote it. -/
structure Sources where
  rawText : Text
  selectedSymptoms : List Text
  previousAnswers : List PreviousAnswer

/-- `quote in text`, in normal form. -/
def quotes (quote text : Text) : Bool :=
  decide (normalizeEvidenceText u quote <:+: normalizeEvidenceText u text)

/-- `_claim_source_matches`. -/
def claimSourceMatches (sources : Sources) (claim : SymptomEvidenceClaim) (fieldName : FieldName) :
    Bool :=
  match claim.source with
  | .rawSymptom => quotes u claim.evidenceQuote sources.rawText
  | .selectedSymptom =>
      (fieldName == .symptomType || fieldName == .accompanyingSymptoms) &&
        sources.selectedSymptoms.any fun item =>
          (canonicalSelectedSymptom u item).isSome && quotes u claim.evidenceQuote item
  | .previousAnswer => sources.previousAnswers.any fun answer =>
      questionField answer.questionId == some fieldName &&
        (validatedPreviousAnswer u fieldName answer.answerText).isSome &&
        quotes u claim.evidenceQuote answer.answerText

/-- `_SYMPTOM_EVIDENCE_PATTERNS`. -/
def symptomEvidencePatterns : List (String × Pattern) :=
  [("제품 누수", .any [.text "누수", .all [.texts ["물", "냉수", "온수", "정수", "찬물"], .upTo 14 .dot,
      .any [.texts ["새", "흐르"], .all [.text "고", .among "여이"], .text "떨어"]]]),
    ("전기 이상", .any [.texts ["스파크", "감전", "연기"], .all [.text "탄", .spaces, .text "냄새"],
      .all [.text "타는", .spaces, .text "냄새"], .texts ["전원선", "전선", "콘센트", "플러그"]]),
    ("온도 이상", .any [.text "미지근", .all [.text "안", .spaces, .text "차갑"],
      .all [.text "차갑지", .spaces, .text "않"], .all [.text "뜨겁지", .spaces, .text "않"],
      .all [.text "온도", .upTo 8 .dot, .texts ["이상", "낮", "높"]]]),
    ("출수량 저하", .any [.all [.text "잘", .spaces, .text "안", .spaces, .text "나"],
      .all [.text "안", .spaces, .text "나오"], .all [.text "나오지", .spaces, .text "않"],
      .all [.text "약하게", .spaces, .text "나"],
      .all [.texts ["물", "출수", "수압", "양"], .upTo 10 .dot, .texts ["약하", "적", "줄", "낮"]],
      .texts ["졸졸", "쫄쫄"]]),
    ("물맛/냄새 이상", .any [.all [.texts ["맛", "냄새"], .upTo 10 .dot,
        .texts ["이상", "나", "역", "비리"]],
      .all [.text "흙", .spaces, .text "맛"], .all [.text "흙", .spaces, .text "냄새"]]),
    ("소음 이상", .any [.texts ["소음", "진동", "웅웅", "덜컹"],
      .all [.text "소리가", .upTo 8 .dot, .texts ["나", "커", "이상"]]]),
    ("필터/관리 문의", .any [.text "필터", .all [.text "교체", .spaces, .text "주기"],
      .all [.text "관리", .spaces, .text "주기"]])]

/-- `_has_substantive_symptom_evidence`. -/
def hasSubstantiveSymptomEvidence (evidenceQuote : Text) : Bool :=
  let stripped := (Pattern.texts ["정수기", "냉수", "온수", "정수", "전체", "물", "오늘", "어제", "그제",
    "최근", "부터", "자꾸", "계속"]).sub (fun _ => [' ']) (normalizeEvidenceText u evidenceQuote)
  let informative := stripped.filter fun c =>
    c.isDigit || c.isLower || decide ('가' ≤ c ∧ c ≤ '힣')
  2 ≤ informative.length

/-- `_symptom_type_matches_evidence`. -/
def symptomTypeMatchesEvidence (value evidenceQuote : Text) : Bool :=
  hasSubstantiveSymptomEvidence u evidenceQuote &&
    let ruleValue := normalizeSymptomType u evidenceQuote []
    if ruleValue ≠ otherSymptom then ruleValue == value
    else if value = otherSymptom then true
    else (symptomEvidencePatterns.find? (·.1.toList == value)).any (·.2.within evidenceQuote)

/-- `_claim_value_matches_evidence`. -/
def claimValueMatchesEvidence (fieldName : FieldName) (value evidenceQuote : Text)
    (source : ClaimSource) : Bool :=
  let same := normalizeEvidenceText u value == normalizeEvidenceText u evidenceQuote
  match fieldName with
  | .targetWaterType => normalizeWaterType evidenceQuote == some value
  | .occurrenceTime => same || (extractOccurrenceTime u evidenceQuote).any fun extracted =>
      normalizeEvidenceText u extracted == normalizeEvidenceText u value
  | .occurrenceCondition => same
  | .errorCode => extractErrorCode u evidenceQuote == some value
  | .actionsTaken => same || (extractActions evidenceQuote).contains value
  | .accompanyingSymptoms => same ||
      source == .selectedSymptom && canonicalSelectedSymptom u evidenceQuote == some value
  | .symptomType =>
      match source with
      | .selectedSymptom => canonicalSelectedSymptom u evidenceQuote == some value
      | .rawSymptom => symptomTypeMatchesEvidence u value evidenceQuote
      | .previousAnswer => false

/-- One round of `_has_valid_evidence`. -/
def isEvidence (sources : Sources) (fieldName : FieldName) (value : Text)
    (claim : SymptomEvidenceClaim) : Bool :=
  let rawRuleSymptom := normalizeSymptomType u sources.rawText []
  claim.fieldName == fieldName &&
    normalizeEvidenceText u claim.value == normalizeEvidenceText u value &&
    claimSourceMatches u sources claim fieldName &&
    -- What the text says itself is not overruled by a selected hint or a claim of the model.
    !(fieldName == .symptomType && rawRuleSymptom != otherSymptom && rawRuleSymptom != value) &&
    !(fieldName == .targetWaterType &&
      (normalizeWaterType sources.rawText).any (· != value)) &&
    claimValueMatchesEvidence u fieldName value claim.evidenceQuote claim.source

/-- `_has_valid_evidence`. -/
def hasValidEvidence (sources : Sources) (claims : List SymptomEvidenceClaim)
    (fieldName : FieldName) (value : Text) : Bool :=
  claims.any (isEvidence u sources fieldName value)

end Claims

/-! ### The candidate -/

section Candidate
variable (u : Unicode)

/-- A text that is not blank, of 500 characters at most. -/
def isShortText (value : Text) : Bool := !(stripChars value).isEmpty && value.length ≤ 500

/-- The checks at the start of `_validate_and_merge`. -/
def checkCandidate (candidate fallback : StructuredSymptom) : Except Fault Unit := do
  require (allowedSymptomTypes.contains candidate.symptomType)
    (.valueError "지원하지 않는 symptom_type입니다.")
  require (candidate.targetWaterType.all (allowedWaterTypes.contains ·))
    (.valueError "지원하지 않는 target_water_type입니다.")
  require (isShortText candidate.symptomType && candidate.occurrenceTime.all isShortText &&
      candidate.occurrenceCondition.all isShortText && candidate.errorCode.all isShortText)
    (.valueError "비어 있거나 지나치게 긴 증상 필드입니다.")
  require (candidate.accompanyingSymptoms.all isShortText)
    (.valueError "동반 증상 형식이 올바르지 않습니다.")
  require (candidate.actionsTaken.all isShortText) (.valueError "수행 조치 형식이 올바르지 않습니다.")
  require (candidate.accompanyingSymptoms.length ≤ 20 && candidate.actionsTaken.length ≤ 20)
    (.valueError "증상 목록 허용 개수를 초과했습니다.")
  require (candidate.errorCode.all fun code => fallback.errorCode == some code)
    (.valueError "고객 원문에서 확인되지 않은 error_code입니다.")

section
variable (sources : Sources) (claims : List SymptomEvidenceClaim)

/-- `accepted_scalar`. -/
def acceptedScalar (fieldName : FieldName) (value fallback : Option Text) : Option Text :=
  match value with
  | none => fallback
  | some value => if hasValidEvidence u sources claims fieldName value then some value else fallback

/-- The symptom with what is accepted of a candidate, and `model_copy` of the candidate: every
field is replaced. -/
def merge (candidate fallback : StructuredSymptom) : StructuredSymptom :=
  let answers := sources.previousAnswers
  let accepted (fieldName : FieldName) := acceptedScalar u sources claims fieldName
  { symptomType :=
      if hasValidEvidence u sources claims .symptomType candidate.symptomType then
        candidate.symptomType
      else fallback.symptomType
    occurrenceTime := (answerByField u .occurrenceTime answers).or
      (accepted .occurrenceTime candidate.occurrenceTime fallback.occurrenceTime)
    targetWaterType := (normalizeWaterType sources.rawText).or
      ((answerByField u .targetWaterType answers).or
        (accepted .targetWaterType candidate.targetWaterType fallback.targetWaterType))
    occurrenceCondition := (answerByField u .occurrenceCondition answers).or
      (accepted .occurrenceCondition candidate.occurrenceCondition fallback.occurrenceCondition)
    errorCode := fallback.errorCode
    accompanyingSymptoms := (validatedSelectedSymptoms u sources.selectedSymptoms ++
      candidate.accompanyingSymptoms.filter
        (hasValidEvidence u sources claims .accompanyingSymptoms)).eraseDups
    actionsTaken := (candidate.actionsTaken.filter
      (hasValidEvidence u sources claims .actionsTaken) ++
      (fallback.actionsTaken ++ answersTo u .actionsTaken answers)).eraseDups }

/-- The values of a field. -/
def FieldName.values : FieldName → StructuredSymptom → List Text
  | .symptomType, s => [s.symptomType]
  | .occurrenceTime, s => s.occurrenceTime.toList
  | .targetWaterType, s => s.targetWaterType.toList
  | .occurrenceCondition, s => s.occurrenceCondition.toList
  | .errorCode, s => s.errorCode.toList
  | .accompanyingSymptoms, s => s.accompanyingSymptoms
  | .actionsTaken, s => s.actionsTaken

/-- `rejected_fields`, by their names. The error code is no field that evidence is asked for. -/
def rejectedFields (candidate : StructuredSymptom) : List FieldName :=
  [.accompanyingSymptoms, .actionsTaken, .occurrenceCondition, .occurrenceTime, .symptomType,
    .targetWaterType].filter fun fieldName =>
      (fieldName.values candidate).any fun value =>
        !hasValidEvidence u sources claims fieldName value

/-- `_validate_and_merge`. -/
def validateAndMerge (candidate fallback : StructuredSymptom) :
    Except Fault (StructuredSymptom × List FieldName) := do
  checkCandidate candidate fallback
  return (merge u sources claims candidate fallback, rejectedFields u sources claims candidate)

end

end Candidate

/-! ### Safety signals -/

section Safety
variable (u : Unicode)

/-- `SafetySignals(**{item.signal_name: True for item in evidence}, evidence=evidence)`. -/
def SafetySignals.ofEvidence (evidence : List SafetySignalEvidence) : SafetySignals where
  isSet signal := evidence.any (·.signalName == signal)
  evidence := evidence

/-- What is not yet a signal is added to the evidence. -/
def addEvidence (evidence : List SafetySignalEvidence) (item : SafetySignalEvidence) :
    List SafetySignalEvidence :=
  if evidence.any (·.signalName == item.signalName) then evidence else evidence ++ [item]

/-- One signal that is found in a source. A quote of more than 500 characters makes no evidence;
a match neither starts nor ends with a space, so that nothing is stripped. -/
def addFound (source : SignalSource) (evidence : List SafetySignalEvidence)
    (found : Signal × Text) : Except Fault (List SafetySignalEvidence) :=
  if evidence.any (·.signalName == found.1) then .ok evidence
  else if found.2.length ≤ 500 then .ok (evidence ++ [⟨found.1, found.2, source⟩])
  else .error .validationError

/-- The texts that signals are looked for in. -/
def signalSources (rawText : Text) (previousAnswers : List PreviousAnswer) :
    List (SignalSource × Text) :=
  (.rawSymptom, rawText) :: previousAnswers.map fun answer => (.previousAnswer, answer.answerText)

/-- `_deterministic_safety_signals`. -/
def deterministicSafetySignals (rawText : Text) (previousAnswers : List PreviousAnswer) :
    Except Fault SafetySignals := do
  let evidence ← (signalSources rawText previousAnswers).foldlM
    (fun evidence source =>
      (detectSafetyEvidence u source.2).foldlM (addFound source.1) evidence) []
  return .ofEvidence evidence

/-- `_merge_safety_signals`. -/
def mergeSafetySignals (first second : SafetySignals) : SafetySignals :=
  .ofEvidence (second.evidence.foldl addEvidence first.evidence)

/-- The texts that a quote of the model may be in. -/
def quotedTexts (rawText : Text) (previousAnswers : List PreviousAnswer) :
    SignalSource → List Text
  | .rawSymptom => [rawText]
  | .previousAnswer => previousAnswers.map (·.answerText)

/-- `_validated_safety_signals`. -/
def validatedSafetySignals (signals : SafetySignals) (rawText : Text)
    (previousAnswers : List PreviousAnswer) : SafetySignals :=
  .ofEvidence (signals.evidence.filter fun evidence =>
    signals.isSet evidence.signalName &&
      (quotedTexts rawText previousAnswers evidence.source).any fun text =>
        supportsSafetyQuote u text evidence.signalName evidence.evidenceQuote)

end Safety

/-! ### The structurer -/

/-- `structure`: the symptom, and the signals that are left in `last_safety_signals`. -/
def structureSymptom (u : Unicode) (client : Option LLMCall) (sources : Sources) :
    Except Fault (StructuredSymptom × SafetySignals) := do
  let signals ← deterministicSafetySignals u sources.rawText sources.previousAnswers
  let fallback :=
    structureWithRules u sources.rawText sources.selectedSymptoms sources.previousAnswers
  match client with
  | none | some .failed => return (fallback, signals)
  | some (.answered response) =>
      let signals := mergeSafetySignals signals
        (validatedSafetySignals u response.safetySignals sources.rawText sources.previousAnswers)
      match validateAndMerge u sources response.evidenceClaims response.output fallback with
      | .error _ => return (fallback, signals)
      | .ok (accepted, _) => return (accepted, signals)

end WaterCare.Ai.SymptomStructurer
