import WaterCare.Py.Unicode

/-!
`symptom_normalizer.py`: the deterministic rules that read the type of a symptom, the water, the
time, the condition, an error code and the actions out of a customer's text.
-/

namespace WaterCare.Ai.SymptomNormalizer
open Py

/-- A text, by its characters. -/
abbrev Text := List Char

def anyIn (keywords : List String) (text : Text) : Bool := keywords.any fun k => contained k text

/-- `_SELECTED_SYMPTOM_CODE_MAP`. -/
def selectedSymptomCodes : List (String × String) :=
  [("NO_WATER", "출수량 저하"), ("LOW_FLOW", "출수량 저하"), ("LEAK", "제품 누수"),
    ("ODOR", "물맛/냄새 이상"), ("TASTE", "물맛/냄새 이상"), ("TASTE_ODOR", "물맛/냄새 이상"),
    ("TEMPERATURE_ABNORMAL", "온도 이상"), ("NOISE", "소음 이상"), ("DISPLAY_ERROR", "기타 증상"),
    ("OTHER", "기타 증상")]

/-- The labels that `canonical_selected_symptom` knows, which are also `ALLOWED_SYMPTOM_TYPES`. -/
def symptomLabels : List Text :=
  ["제품 누수", "전기 이상", "온도 이상", "출수량 저하", "물맛/냄새 이상", "소음 이상",
    "필터/관리 문의", "기타 증상"].map String.toList

def otherSymptom : Text := "기타 증상".toList

/-- `_SYMPTOM_RULES`. -/
def symptomRules : List (String × List String) :=
  [("제품 누수", ["누수", "물이 새", "물 새", "바닥에 물", "젖어"]),
    ("전기 이상", ["스파크", "탄 냄새", "타는 냄새", "연기", "전원선"]),
    ("온도 이상", ["미지근", "안 차갑", "차갑지", "안 뜨겁", "뜨겁지", "온도", "덜 뜨거", "안 시원",
      "시원하지", "덜 시원"]),
    ("출수량 저하", ["졸졸", "쫄쫄", "출수량", "출수양", "물이 안 나", "물 안 나", "잘 안 나",
      "안 나와", "적게 나", "약하게 나", "출수가 안", "수압"]),
    ("물맛/냄새 이상", ["물맛", "이상한 맛", "흙맛", "흙 맛", "흙냄새", "흙 냄새", "토양 냄새", "냄새",
      "비린", "역한"]),
    ("소음 이상", ["소음", "진동", "웅웅", "덜컹"]),
    ("필터/관리 문의", ["필터", "교체 주기", "관리 주기"])]

/-- `_WATER_RULES`. -/
def waterRules : List (String × List String) :=
  [("냉수", ["냉수", "찬물", "차가운 물"]), ("온수", ["온수", "따뜻한 물", "뜨거운 물"]),
    ("정수", ["정수", "상온수"])]

/-- The first of `_NEGATED_SYMPTOM_PATTERNS`: a leak that is denied. -/
def deniedLeak : Pattern :=
  .all [.text "누수", .opt (.among "는가"), .spaces,
    .any [.all [.text "아니", .opt (.texts ["에요", "예요", "고", "라", "며"])],
      .all [.text "없", .opt (.texts ["어요", "습니다", "고"])]]]

/-- `_NEGATED_SYMPTOM_PATTERNS`. -/
def negatedSymptoms : List Pattern :=
  [deniedLeak,
    .all [.text "물", .opt (.text "이"), .spaces,
      .any [.all [.text "안", .spaces, .text "새"], .all [.text "새지", .spaces, .text "않"]]],
    .all [.text "냄새", .opt (.among "는가"), .spaces,
      .any [.all [.text "안", .spaces, .text "나"], .text "없"]]]

/-- A water type that works as it should. -/
def waterInOrder : Pattern :=
  .all [.texts ["냉수", "온수", "정수", "찬물", "뜨거운 물", "차가운 물"], .opt (.among "는은가"),
    .spaces,
    .any [.all [.text "정상", .opt (.texts ["이에요", "입니다", "이고", "인데", "이지만"])],
      .all [.text "문제", .opt (.among "는가"), .spaces, .text "없", .star .hangul]]]

/-- `정수(?!기)`. -/
def purified : Pattern := .all [.text "정수", .notAhead (.text "기")]

section
variable (u : Unicode)

/-- `canonical_selected_symptom`. -/
def canonicalSelectedSymptom (value : Text) : Option Text :=
  match selectedSymptomCodes.find? fun entry => entry.1.toList == u.upper value with
  | some entry => some entry.2.toList
  | none => if value ∈ symptomLabels then some value else none

/-- The loop over the selected symptoms of `normalize_symptom_type`. -/
def selectedSymptomType (rawText : Text) : List Text → Text
  | [] => otherSymptom
  | selected :: rest =>
      match canonicalSelectedSymptom u selected with
      | none => selectedSymptomType rawText rest
      | some mapped =>
          if mapped = otherSymptom then selectedSymptomType rawText rest
          -- A selected label does not bring back a leak that the text denies.
          else if mapped = "제품 누수".toList ∧ deniedLeak.within rawText then
            selectedSymptomType rawText rest
          else mapped

/-- `normalize_symptom_type`. -/
def normalizeSymptomType (rawText : Text) (selectedSymptoms : List Text) : Text :=
  let normalized := negatedSymptoms.foldl (fun text r => r.sub (fun _ => [' ']) text) rawText
  match symptomRules.find? fun rule => anyIn rule.2 normalized with
  | some rule => rule.1.toList
  | none => selectedSymptomType u rawText selectedSymptoms

/-- `normalize_water_type`. -/
def normalizeWaterType (text : Text) : Option Text :=
  let text := waterInOrder.sub (fun _ => [' ']) text
  let found := waterRules.filter fun rule =>
    anyIn rule.2 text && (rule.1 != "정수" || !contained "정수" text || purified.within text)
  match found with
  | [] => none
  | [rule] => some rule.1.toList
  | _ => some "전체".toList

/-- `_TIME_PATTERNS`. -/
def timePatterns : List Pattern :=
  let since : Pattern := .opt (.text "부터")
  [.all [.plus (.one u.isDigit), .spaces, .texts ["분", "시간", "일", "주", "개월"], .spaces,
      .text "전", since],
    .all [.any [.all [.text "지난", .spaces, .texts ["주말", "주", "달"]],
        .all [.text "며칠", .spaces, .text "전"]], since],
    .all [.texts ["오늘", "어제", "그제", "방금", "아까", "최근", "처음부터", "설치 후", "교체 후"],
      since],
    .texts ["계속", "항상", "간헐적으로", "가끔", "때때로"]]

/-- `extract_occurrence_time`. -/
def extractOccurrenceTime (text : Text) : Option Text :=
  (timePatterns u).findSome? fun r => r.group text

/-- The markers of `extract_occurrence_condition`. -/
def conditionMarkers : List (String × List String) :=
  [("출수 버튼을 누를 때", ["출수 버튼을 누르면", "버튼을 누르면"]),
    ("사용할 때", ["사용할 때", "사용 중에", "사용 중"]), ("출수할 때", ["출수할 때"]),
    ("작동할 때", ["작동할 때"]), ("특정 조건", ["동안", "경우"])]

/-- `extract_occurrence_condition`. -/
def extractOccurrenceCondition (text : Text) : Option Text :=
  (conditionMarkers.find? fun marker => anyIn marker.2 text).map fun marker => marker.1.toList

/-- `(?<![A-Za-z0-9])(?:ERR|ER|E)[-_ ]?\d{1,4}(?!\d)`. Without regard to case, the letters are
those of ASCII and four more. -/
def errorCode : Pattern :=
  let letter (c : Char) : Pattern := .one fun d => d == c || d == c.toLower
  .all [.notBehind fun c => c.isAlphanum || [0x130, 0x131, 0x17F, 0x212A].contains c.toNat,
    .any [.all [letter 'E', letter 'R', letter 'R'], .all [letter 'E', letter 'R'], letter 'E'],
    .opt (.among "-_ "), .between 1 4 (.one u.isDigit), .notAhead (.one u.isDigit)]

/-- `extract_error_code`. -/
def extractErrorCode (text : Text) : Option Text :=
  ((errorCode u).group text).map fun found => (u.upper found).filter (· ≠ ' ')

end

/-- The rules of `extract_actions`. -/
def actionRules : List (String × List String) :=
  [("전원 재부팅", ["재부팅", "전원을 껐다", "전원 껐다"]), ("원수 밸브 확인", ["밸브 확인", "원수 밸브"]),
    ("필터 교체", ["필터를 교체", "필터 교체했"]), ("청소", ["청소했", "닦아봤"])]

/-- `extract_actions`. -/
def extractActions (text : Text) : List Text :=
  (actionRules.filter fun rule => anyIn rule.2 text).map fun rule => rule.1.toList

end WaterCare.Ai.SymptomNormalizer
