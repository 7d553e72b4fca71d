import WaterCare.Client.Kotlin

/-!
The requests of `RemoteIntakeCustomerCareRepository.kt`: the fingerprint under which a submission is
remembered, and the body with which its inquiry is created. The fingerprint joins the parts of a
request, so two requests that differ may share it.
-/

namespace WaterCare.Client
open Kotlin

/-- `SymptomIntakeRequest`, without the fields that the remote repository does not read. -/
structure SymptomIntakeRequest where
  subscriptionId : String
  symptomCodes : List String
  rawText : String
  occurrenceCondition : Option String
  displayText : Option String
  entryMode : String
  deriving DecidableEq

/-- `CreateInquiryRequest`. -/
structure CreateInquiryRequest where
  subscriptionId : String
  channelCode : String
  rawText : String
  representativeSymptomCode : Option String
  questionnaireSessionId : Option String
  deriving DecidableEq

/-- What a request is about: its texts trimmed and its symptoms in order. -/
structure IntakeContent where
  subscriptionId : String
  symptomCodes : List String
  rawText : String
  occurrenceCondition : String
  displayText : String
  entryMode : String
  deriving DecidableEq

/-- The unit separator. -/
def separator : Char := Char.ofNat 0x1F

namespace IntakeContent
variable (c : IntakeContent)

def parts : List String :=
  [c.subscriptionId, joinToString "," c.symptomCodes, c.rawText, c.occurrenceCondition,
    c.displayText, c.entryMode]

def fingerprint : String := joinToString (String.singleton separator) c.parts

/-- The texts of the content that are not empty. -/
def backendRawText : String :=
  joinToString "\n"
    (filled "" c.rawText ++ filled "발생 조건: " c.occurrenceCondition ++
      filled "제품 표시 문구·오류 코드: " c.displayText)
where
  filled (label text : String) : List String := if text = "" then [] else [label ++ text]

end IntakeContent

namespace SymptomIntakeRequest
variable (r : SymptomIntakeRequest)

def content : IntakeContent where
  subscriptionId := r.subscriptionId
  symptomCodes := sorted r.symptomCodes
  rawText := trim r.rawText
  occurrenceCondition := trim (r.occurrenceCondition.getD "")
  displayText := trim (r.displayText.getD "")
  entryMode := r.entryMode

/-- `fingerprint`. -/
def fingerprint : String := r.content.fingerprint

/-- `toBackendRawText`. -/
def toBackendRawText : String :=
  joinToString "\n"
    ([trim r.rawText].filter (· ≠ "") ++
      ((r.occurrenceCondition.map trim).filter (· ≠ "")).toList.map ("발생 조건: " ++ ·) ++
      ((r.displayText.map trim).filter (· ≠ "")).toList.map ("제품 표시 문구·오류 코드: " ++ ·))

/-- The body of `POST /inquiries`. -/
def createBody : CreateInquiryRequest where
  subscriptionId := r.subscriptionId
  channelCode := "MOBILE"
  rawText := r.toBackendRawText
  representativeSymptomCode := r.symptomCodes.head?
  questionnaireSessionId := none

end SymptomIntakeRequest
end WaterCare.Client
