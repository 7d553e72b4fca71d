import Mathlib.Algebra.GroupWithZero.Nat
import Mathlib.Data.List.Dedup
import Mathlib.Data.List.DropRight
import WaterCare.Machine.Result
import WaterCare.Py.Pattern

/-!
The brief that a consultant reads: the source registry that `context_synthesizer.py`
prepares, the deterministic brief it makes of it, and the brief that `brief_validator.py`
builds from the ids that a language model selects.
-/

namespace WaterCare.Ai.ConsultationContext
open Machine Py

/-- A text that is stripped, cut and joined: the list of its characters. -/
abbrev Text := List Char

/-! ### `context_models.py` -/

inductive ContextSourceKind
  | customerReported
  | questionnaire
  | attemptedAction
  | evidence
  | safety
  | unresolved
  | priority
  | escalation
  deriving DecidableEq, Repr

/-- A model that pydantic refuses, a `ContextBriefValidationError`, a lookup of a missing key,
or a registry without an escalation. -/
inductive BriefFault
  | validationError
  | invalidBrief (message : String)
  | keyError (key : String)
  | noEscalation
  deriving DecidableEq, Repr

structure ContextSource where
  sourceId : String
  kind : ContextSourceKind
  label : Text
  text : Text
  deriving DecidableEq, Repr

structure ContextSourceGroup where
  sourceIds : List String
  filled : sourceIds ≠ []
  short : sourceIds.length ≤ 20
  nodup : sourceIds.Nodup

structure SynthesisRequest where
  modelCode : Text
  productFamily : Text
  safetyLevel : String
  sources : List ContextSource
  deriving DecidableEq, Repr

/-- `ConsultationContextSynthesisCandidate`. -/
structure SynthesisCandidate where
  issueSummarySourceIds : List String
  customerReportedFactIds : List String
  attemptedActionIds : List String
  unresolvedQuestionIds : List String
  safetyConstraintIds : List String
  evidenceFindingSourceGroups : List ContextSourceGroup
  consultantPriorityCheckIds : List String
  uncertaintySourceGroups : List ContextSourceGroup

structure SourcedBriefStatement where
  text : Text
  sourceIds : List String
  deriving DecidableEq, Repr

structure EvidenceBriefFinding extends SourcedBriefStatement where
  sourceChunkIds : List Text
  deriving DecidableEq, Repr

structure CounselorContextBrief where
  safetyConstraints : List SourcedBriefStatement
  issueSummary : SourcedBriefStatement
  customerReportedFacts : List SourcedBriefStatement
  attemptedActionsAndOutcomes : List SourcedBriefStatement
  unresolvedQuestions : List SourcedBriefStatement
  evidenceBasedFindings : List EvidenceBriefFinding
  consultantPriorityChecks : List SourcedBriefStatement
  uncertaintyNotes : List SourcedBriefStatement
  deriving DecidableEq, Repr

/-- The white space that pydantic strips from a text: Python's, but for the four separators. -/
def isBlank (c : Char) : Bool := isSpace c && !(28 ≤ c.toNat && c.toNat ≤ 31)

/-- `str_strip_whitespace`. -/
def trim (s : Text) : Text := (s.dropWhile isBlank).rdropWhile isBlank

/-- `" / ".join(texts)`. -/
def join (texts : List Text) : Text := " / ".toList.intercalate texts

section
variable (isDecimal : Char → Bool)

/-- `^[a-z][a-z0-9_]*-\d{3}$`. -/
def providerSourceId : Pattern :=
  let letter (c : Char) : Bool := 'a' ≤ c && c ≤ 'z'
  let digit : Pattern := .one isDecimal
  .all [.one letter, .star (.one fun c => letter c || c.isDigit || c == '_'), .char '-',
    digit, digit, digit]

def isFilled (maxLength : Nat) (s : Text) : Bool := s ≠ [] && s.length ≤ maxLength

/-- `ContextSource(...)`. -/
def contextSource (sourceId : String) (kind : ContextSourceKind) (label text : Text) :
    Except BriefFault ContextSource := do
  require ((providerSourceId isDecimal).fullmatch sourceId) .validationError
  require (isFilled 100 (trim label)) .validationError
  require (isFilled 2000 (trim text)) .validationError
  return ⟨sourceId, kind, trim label, trim text⟩

/-- `SourcedBriefStatement(...)`. -/
def statement (text : Text) (sourceIds : List String) :
    Except BriefFault SourcedBriefStatement := do
  require (isFilled 2000 (trim text)) .validationError
  require (!sourceIds.isEmpty && sourceIds.length ≤ 20) .validationError
  require (sourceIds.all (providerSourceId isDecimal).fullmatch) .validationError
  require (decide sourceIds.Nodup) .validationError
  return ⟨trim text, sourceIds⟩

/-- `EvidenceBriefFinding(...)`. -/
def finding (text : Text) (sourceIds : List String) (sourceChunkIds : List Text) :
    Except BriefFault EvidenceBriefFinding := do
  let statement ← statement isDecimal text sourceIds
  require (!sourceChunkIds.isEmpty && sourceChunkIds.length ≤ 10) .validationError
  require ((sourceChunkIds.map trim).all (isFilled 200)) .validationError
  return ⟨statement, sourceChunkIds.map trim⟩

end

/-- The bounds of `CounselorContextBrief`. -/
def checkBrief (brief : CounselorContextBrief) : Except BriefFault CounselorContextBrief := do
  require (brief.safetyConstraints.length ≤ 70) .validationError
  require (brief.customerReportedFacts.length ≤ 60) .validationError
  require (brief.attemptedActionsAndOutcomes.length ≤ 20) .validationError
  require (brief.unresolvedQuestions.length ≤ 30) .validationError
  require (brief.evidenceBasedFindings.length ≤ 10) .validationError
  require (brief.consultantPriorityChecks.length ≤ 30) .validationError
  require (brief.uncertaintyNotes.length ≤ 80) .validationError
  return brief

/-! ### `ContextTextSanitizer` -/

/-- The masking rules: which labels are sensitive, and what the substitutions make of a text
under a label, with the ambiguous names masked or not. -/
structure Masks where
  isSensitive : Text → Bool
  mask : Option Text → Bool → Text → Text

/-- `sanitize`. -/
def Masks.sanitize (masks : Masks) (value : Text) (label : Option Text) (maxLength : Nat)
    (redactName : Bool) : Text :=
  if label.any fun label => label ≠ [] && masks.isSensitive label then
    "[REDACTED_SENSITIVE]".toList
  else
    let sanitized := stripChars (collapse (masks.mask label redactName value))
    (if sanitized = [] then "[REDACTED_EMPTY]".toList else sanitized).take maxLength

/-! ### `ConsultationContextSynthesisInput` -/

structure ContextFact where
  fieldName : Text
  value : Text
  deriving DecidableEq, Repr

structure ContextQuestionnaireAnswer where
  fieldName : Text
  answer : Text
  deriving DecidableEq, Repr

/-- The id of the chunk is stripped where it is taken in. -/
structure ContextSynthesisEvidence where
  chunkId : Text
  summary : Text
  stripped : trim chunkId = chunkId

structure SynthesisInput where
  modelCode : Text
  runtimeProductApproved : Bool
  productFamily : Text
  symptomFacts : List ContextFact
  questionnaireAnswers : List ContextQuestionnaireAnswer
  attemptedActions : List Text
  evidence : List ContextSynthesisEvidence
  safetyLevel : String
  safetyRequiresConsultation : Bool
  matchedSafetyRuleIds : List Text
  safetyNotes : List Text
  safetyConstraints : List Text
  escalationReason : Text
  unresolvedQuestions : List Text
  consultantPriorityChecks : List Text

/-! ### The source registry -/

/-- The prefix of the ids of a kind. -/
def ContextSourceKind.idPrefix : ContextSourceKind → String
  | customerReported => "symptom"
  | questionnaire => "answer"
  | attemptedAction => "attempted"
  | evidence => "evidence"
  | safety => "safety"
  | unresolved => "unresolved"
  | priority => "priority"
  | escalation => "escalation"

/-- `f"{prefix}-{n:03d}"`. -/
def sourceId (kind : ContextSourceKind) (n : Nat) : String :=
  kind.idPrefix ++ "-" ++ String.ofList ((Nat.toDigits 10 n).leftpad 3 '0')

/-- `source.source_id.startswith(prefix + "-")`. -/
def hasPrefix (kind : ContextSourceKind) (source : ContextSource) : Bool :=
  (kind.idPrefix ++ "-").toList.isPrefixOf source.sourceId.toList

def redactsNames (kind : ContextSourceKind) : Bool :=
  kind == .customerReported || kind == .questionnaire || kind == .attemptedAction

section
variable (isDecimal : Char → Bool) (masks : Masks)

/-- One round of `add_sources`, with the sources so far and the items seen. -/
def addSource (kind : ContextSourceKind)
    (acc : List ContextSource × List (Text × Text)) (item : Text × Text) :
    Except BriefFault (List ContextSource × List (Text × Text)) := do
  let (sources, seen) := acc
  let (label, rawText) := item
  let text := masks.sanitize rawText (some label) 2000 (redactsNames kind)
  if (label, text) ∈ seen then return (sources, seen)
  let number := (sources.filter (hasPrefix kind)).length + 1
  let source ← contextSource isDecimal (sourceId kind number) kind
    (masks.sanitize label none 100 false) text
  return (sources ++ [source], seen ++ [(label, text)])

/-- `add_sources`. -/
def addSources (kind : ContextSourceKind) (items : List (Text × Text))
    (sources : List ContextSource) : Except BriefFault (List ContextSource) := do
  let (sources, _) ← items.foldlM (addSource isDecimal masks kind) (sources, [])
  return sources

def evidenceSource (entry : ContextSynthesisEvidence × Nat) : Except BriefFault ContextSource :=
  contextSource isDecimal (sourceId .evidence entry.2) .evidence
    ("승인 근거 ".toList ++ Nat.toDigits 10 entry.2) (masks.sanitize entry.1.summary none 2000 false)

def safetyItems (input : SynthesisInput) : List (Text × Text) :=
  [("안전 판정".toList, "위험도: ".toList ++ input.safetyLevel.toList),
    ("상담 필요 판정".toList,
      (if input.safetyRequiresConsultation then "상담 필요" else "상담 필요 판정 없음").toList)] ++
  input.matchedSafetyRuleIds.map (Prod.mk "적용 안전 규칙".toList) ++
  input.safetyNotes.map (Prod.mk "안전 참고".toList) ++
  input.safetyConstraints.map (Prod.mk "사용 제한".toList)

/-- The sources in the order in which `prepare` adds them. -/
def registry (input : SynthesisInput) : Except BriefFault (List ContextSource) := do
  let sources ← addSources isDecimal masks .customerReported
    (input.symptomFacts.map fun fact => (fact.fieldName, fact.fieldName ++ ": ".toList ++ fact.value)) []
  let sources ← addSources isDecimal masks .questionnaire
    (input.questionnaireAnswers.map fun answer =>
      (answer.fieldName, answer.fieldName ++ ": ".toList ++ answer.answer)) sources
  let sources ← addSources isDecimal masks .attemptedAction
    (input.attemptedActions.map (Prod.mk "고객이 이미 수행한 조치".toList)) sources
  let evidence ← (input.evidence.zipIdx 1).mapM (evidenceSource isDecimal masks)
  let sources ← addSources isDecimal masks .safety (safetyItems input) (sources ++ evidence)
  let sources ← addSources isDecimal masks .unresolved
    (input.unresolvedQuestions.map (Prod.mk "미확인 질문".toList)) sources
  let sources ← addSources isDecimal masks .priority
    (input.consultantPriorityChecks.map (Prod.mk "상담사 우선 확인".toList)) sources
  addSources isDecimal masks .escalation [("상담 이관 사유".toList, input.escalationReason)] sources

end

/-- `evidence_chunk_ids`. -/
def evidenceChunkIds (input : SynthesisInput) : List (String × Text) :=
  (input.evidence.zipIdx 1).map fun entry => (sourceId .evidence entry.2, entry.1.chunkId)

/-! ### What the provider is shown -/

def providerSymptomTypes : List Text :=
  ["제품 누수", "전기 이상", "온도 이상", "출수량 저하", "물맛/냄새 이상", "소음 이상",
    "필터/관리 문의", "기타 증상"].map String.toList

def providerWaterTypes : List Text := ["냉수", "온수", "정수", "전체"].map String.toList

def providerSafetyLabels : List Text :=
  ["안전 판정", "상담 필요 판정", "적용 안전 규칙"].map String.toList

/-- `[A-Z0-9-]{1,n}`. -/
def isCode (n : Nat) (s : Text) : Bool :=
  s ≠ [] && s.length ≤ n && s.all fun c => ('A' ≤ c && c ≤ 'Z') || c.isDigit || c == '-'

/-- `text.split(":", maxsplit=1)[-1].strip()`. -/
def afterColon (text : Text) : Text :=
  match text.dropWhile (· != ':') with
  | [] => stripChars text
  | _ :: rest => stripChars rest

/-- `_is_provider_eligible`. -/
def isProviderEligible (source : ContextSource) : Bool :=
  match source.kind with
  | .customerReported =>
      let value := afterColon source.text
      if ["symptom_type", "selected_symptom", "accompanying_symptom"].any
          (·.toList == source.label) then providerSymptomTypes.contains value
      else if source.label = "target_water_type".toList then providerWaterTypes.contains value
      else if source.label = "error_code".toList then isCode 30 value
      else false
  | .safety => providerSafetyLabels.contains source.label
  | _ => false

/-! ### The deterministic brief -/

def isReported (source : ContextSource) : Bool :=
  source.kind == .customerReported || source.kind == .questionnaire

/-- `_bounded_source_join` and `_join_source_texts`: every text is cut to its share. -/
def joinSourceTexts (texts : List Text) : Text :=
  let available := 2000 - 3 * (texts.length - 1)
  let perSource := max 1 (available / max 1 texts.length)
  (join (texts.map (·.take perSource))).take 2000

def actionOutcomeMarkers : List String :=
  ["변화", "개선", "해결", "동일", "없음", "악화", "지속", "실패", "성공", "효과", "결과"]

/-- An action without a word of its outcome. -/
def lacksOutcome (source : ContextSource) : Bool :=
  source.kind == .attemptedAction &&
    !actionOutcomeMarkers.any fun marker =>
      source.text.tails.any fun rest => marker.toList.isPrefixOf rest

/-- The sources by their label, in the order of the first of each label. -/
def byLabel (sources : List ContextSource) : List (List ContextSource) :=
  (sources.map (·.label)).eraseDups.map fun label =>
    sources.filter (·.label == label)

/-- `group[start : start + 20] for start in range(0, len(group), 20)`. -/
def slices (group : List ContextSource) : List (List ContextSource) :=
  (List.range ((group.length + 19) / 20)).map fun i => (group.drop (20 * i)).take 20

/-- The groups of reported sources with one label and different texts. -/
def conflicts (reported : List ContextSource) : List (List ContextSource) :=
  ((byLabel reported).filter fun group => (group.map (·.text)).dedup.length > 1).flatMap slices

def noEvidenceText : Text := "승인된 공식 근거가 없어 상담사 확인이 필요합니다.".toList

section
variable (isDecimal : Char → Bool)

/-- `evidence_chunk_ids[source_id]`. -/
def chunkOf (chunkIds : List (String × Text)) (sourceId : String) : Except BriefFault Text :=
  match chunkIds.find? (·.1 == sourceId) with
  | some entry => .ok entry.2
  | none => .error (.keyError sourceId)

def exactStatement (source : ContextSource) : Except BriefFault SourcedBriefStatement :=
  statement isDecimal source.text [source.sourceId]

def sourceFinding (chunkIds : List (String × Text)) (source : ContextSource) :
    Except BriefFault EvidenceBriefFinding := do
  let chunkId ← chunkOf chunkIds source.sourceId
  finding isDecimal source.text [source.sourceId] [chunkId]

def outcomeNote (source : ContextSource) : Except BriefFault SourcedBriefStatement :=
  statement isDecimal (("조치 결과 미확인: ".toList ++ source.text).take 2000) [source.sourceId]

/-- The note on a conflict; the two modules join the texts each in its own way. -/
def conflictNote (joined : List Text → Text) (group : List ContextSource) :
    Except BriefFault SourcedBriefStatement :=
  statement isDecimal (("상충 정보: ".toList ++ joined (group.map (·.text))).take 2000)
    (group.map (·.sourceId))

/-- The notes on the actions without an outcome and on the conflicts of the reported sources. -/
def uncertaintyNotes (joined : List Text → Text) (sources reported : List ContextSource) :
    Except BriefFault (List SourcedBriefStatement) := do
  let outcomes ← (sources.filter lacksOutcome).mapM (outcomeNote isDecimal)
  let conflicting ← (conflicts reported).mapM (conflictNote isDecimal joined)
  return outcomes ++ conflicting

/-- The note on a brief without evidence, about the first escalation. -/
def escalationNote (sources : List ContextSource) :
    Except BriefFault (List SourcedBriefStatement) :=
  if sources.any (·.kind == .evidence) then .ok []
  else
    match sources.find? (·.kind == .escalation) with
    | some source => [source].mapM fun source =>
        statement isDecimal noEvidenceText [source.sourceId]
    | none => .error .noEscalation

def exactStatements (kinds : List ContextSourceKind) (sources : List ContextSource) :
    Except BriefFault (List SourcedBriefStatement) :=
  (sources.filter fun source => kinds.contains source.kind).mapM (exactStatement isDecimal)

/-- `_deterministic_brief`. -/
def deterministicBrief (sources : List ContextSource) (chunkIds : List (String × Text)) :
    Except BriefFault CounselorContextBrief := do
  let byKind (kind : ContextSourceKind) := sources.filter (·.kind == kind)
  let reported := byKind .customerReported ++ byKind .questionnaire
  let issueSources :=
    if reported.isEmpty then (byKind .escalation).take 1 else reported.take 3
  let issueSummary ← statement isDecimal (joinSourceTexts (issueSources.map (·.text)))
    (issueSources.map (·.sourceId))
  let findings ← (byKind .evidence).mapM (sourceFinding isDecimal chunkIds)
  let notes ← uncertaintyNotes isDecimal join sources reported
  let lacking ← escalationNote isDecimal sources
  let safety ← exactStatements isDecimal [.safety] sources
  let facts ← exactStatements isDecimal [.customerReported, .questionnaire] sources
  let attempted ← exactStatements isDecimal [.attemptedAction] sources
  let unresolved ← exactStatements isDecimal [.unresolved] sources
  let priority ← exactStatements isDecimal [.priority] sources
  checkBrief ⟨safety, issueSummary, facts, attempted, unresolved, findings, priority,
    notes ++ lacking⟩

end

/-! ### `ConsultationContextSynthesizer.prepare` -/

inductive BypassReason
  | danger
  | inputTooLarge
  | inputNotEligible
  | runtimeProductNotApproved
  | safetyNotVerified
  deriving DecidableEq, Repr

/-- `PreparedContextSynthesis`; `sourcesById` is the dict in its order. -/
structure PreparedContextSynthesis where
  request : Option SynthesisRequest
  sourcesById : List ContextSource
  evidenceChunkIdsBySourceId : List (String × Text)
  deterministicBrief : CounselorContextBrief
  providerSourceIds : List String
  providerBypassReason : Option BypassReason
  deriving DecidableEq, Repr

section
variable (isDecimal : Char → Bool) (masks : Masks)

/-- `_safe_model_code`. -/
def safeModelCode (value : Text) : Text :=
  let sanitized := masks.sanitize value none 100 false
  if isCode 100 sanitized then sanitized else "UNKNOWN_MODEL".toList

/-- `ConsultationContextSynthesisRequest(...)`. -/
def synthesisRequest (input : SynthesisInput) (sources : List ContextSource) :
    Except BriefFault SynthesisRequest := do
  let modelCode := safeModelCode masks input.modelCode
  let productFamily := trim (masks.sanitize input.productFamily none 100 false)
  require (isFilled 100 modelCode && isFilled 100 productFamily) .validationError
  require (input.safetyLevel == "general" || input.safetyLevel == "caution") .validationError
  require (!sources.isEmpty && sources.length ≤ 120) .validationError
  require (decide (sources.map (·.sourceId)).Nodup) .validationError
  return ⟨modelCode, productFamily, input.safetyLevel, sources⟩

def bypassReason (input : SynthesisInput) (sources providerSources : List ContextSource) :
    Option BypassReason :=
  if input.safetyLevel = "danger" then some .danger
  else if !input.runtimeProductApproved then some .runtimeProductNotApproved
  else if input.safetyLevel = "unknown" then some .safetyNotVerified
  else if sources.length > 120 ∨ (sources.map (·.text.length)).sum > 40000 then
    some .inputTooLarge
  else if !providerSources.any (·.kind == .customerReported) then some .inputNotEligible
  else none

def providerRequest (input : SynthesisInput) (bypass : Option BypassReason)
    (providerSources : List ContextSource) : Except BriefFault (Option SynthesisRequest) :=
  match bypass with
  | some _ => .ok none
  | none => (synthesisRequest masks input providerSources).map some

/-- `prepare`. -/
def prepare (input : SynthesisInput) : Except BriefFault PreparedContextSynthesis := do
  let sources ← registry isDecimal masks input
  let chunkIds := evidenceChunkIds input
  let providerSources := sources.filter isProviderEligible
  let brief ← deterministicBrief isDecimal sources chunkIds
  let bypass := bypassReason input sources providerSources
  let request ← providerRequest masks input bypass providerSources
  return ⟨request, sources, chunkIds, brief, providerSources.map (·.sourceId), bypass⟩

end

/-! ### `CounselorContextBriefValidator` -/

/-- `_require_safe_subset`. -/
def requireSafeSubset (fieldName : String) (selected expected : List String) :
    Except BriefFault Unit := do
  require (decide selected.Nodup) (.invalidBrief (fieldName ++ "에 중복 Source가 포함되었습니다."))
  require (selected.all (expected.contains ·))
    (.invalidBrief (fieldName ++ "에 입력에 없는 Source가 포함되었습니다."))

/-- `sources_by_id[source_id]`. -/
def sourceOf (sources : List ContextSource) (sourceId : String) : Except BriefFault ContextSource :=
  match sources.find? (·.sourceId == sourceId) with
  | some source => .ok source
  | none => .error (.keyError sourceId)

/-- `_validate_group_ids`. -/
def validateGroupIds (sources : List ContextSource) (allowedKinds : List ContextSourceKind)
    (selected : List String) : Except BriefFault Unit := do
  require (decide selected.Nodup) (.invalidBrief "Source Group에 중복 ID가 있습니다.")
  require (selected.all fun id => sources.any (·.sourceId == id))
    (.invalidBrief "합성 결과가 알 수 없는 Source를 인용했습니다.")
  let chosen ← selected.mapM (sourceOf sources)
  require (chosen.all fun source => allowedKinds.contains source.kind)
    (.invalidBrief "합성 결과가 허용되지 않은 종류의 Source를 그룹화했습니다.")

/-- `_merge_with_internal_ids`. -/
def mergeWithInternalIds (selected : List String) (kinds : List ContextSourceKind)
    (sources : List ContextSource) : List String :=
  selected ++ (sources.filter fun source =>
    kinds.contains source.kind && !selected.contains source.sourceId).map (·.sourceId)

/-- `_stable_unique_statements`. -/
def stableUniqueStatements (statements : List SourcedBriefStatement) :
    List SourcedBriefStatement :=
  statements.foldl (fun unique statement =>
    if statement ∈ unique then unique else unique ++ [statement]) []

section
variable (isDecimal : Char → Bool)

/-- `_resolve_exact`. -/
def resolveExact (sources : List ContextSource) (sourceIds : List String) :
    Except BriefFault (List SourcedBriefStatement) :=
  sourceIds.mapM fun id => do
    let source ← sourceOf sources id
    statement isDecimal source.text [id]

/-- `_materialize_group`. -/
def materializeGroup (sources : List ContextSource) (sourceIds : List String) :
    Except BriefFault SourcedBriefStatement := do
  let chosen ← sourceIds.mapM (sourceOf sources)
  statement isDecimal (joinSourceTexts (chosen.map (·.text))) sourceIds

def groupFinding (sources : List ContextSource) (chunkIds : List (String × Text))
    (group : ContextSourceGroup) : Except BriefFault EvidenceBriefFinding := do
  let chosen ← group.sourceIds.mapM (sourceOf sources)
  let chunks ← group.sourceIds.mapM (chunkOf chunkIds)
  finding isDecimal (joinSourceTexts (chosen.map (·.text))) group.sourceIds chunks

/-- The ids of the provider's sources of some kinds. -/
def categoryIds (provider : List ContextSource) (kinds : List ContextSourceKind) : List String :=
  (provider.filter fun source => kinds.contains source.kind).map (·.sourceId)

/-- The checks of the candidate, against the sources that the provider was shown. -/
def checkCandidate (candidate : SynthesisCandidate) (provider : List ContextSource) :
    Except BriefFault Unit := do
  requireSafeSubset "customer_reported_fact_ids" candidate.customerReportedFactIds
    (categoryIds provider [.customerReported, .questionnaire])
  requireSafeSubset "attempted_action_ids" candidate.attemptedActionIds
    (categoryIds provider [.attemptedAction])
  requireSafeSubset "unresolved_question_ids" candidate.unresolvedQuestionIds
    (categoryIds provider [.unresolved])
  requireSafeSubset "safety_constraint_ids" candidate.safetyConstraintIds
    (categoryIds provider [.safety])
  requireSafeSubset "consultant_priority_check_ids" candidate.consultantPriorityCheckIds
    (categoryIds provider [.priority])
  validateGroupIds provider [.customerReported, .questionnaire, .unresolved, .escalation]
    candidate.issueSummarySourceIds
  candidate.evidenceFindingSourceGroups.forM fun group =>
    validateGroupIds provider [.evidence] group.sourceIds
  requireSafeSubset "evidence_finding_source_groups"
    (candidate.evidenceFindingSourceGroups.flatMap (·.sourceIds)) (categoryIds provider [.evidence])
  candidate.uncertaintySourceGroups.forM fun group =>
    validateGroupIds provider
      [.customerReported, .questionnaire, .attemptedAction, .unresolved, .escalation]
      group.sourceIds

/-- `validate_and_build`. -/
def validateAndBuild (candidate : SynthesisCandidate) (sources : List ContextSource)
    (chunkIds : List (String × Text)) (providerSourceIds : List String) :
    Except BriefFault CounselorContextBrief := do
  require (!sources.isEmpty) (.invalidBrief "합성 결과를 검증할 Source가 없습니다.")
  require (providerSourceIds.all fun id => sources.any (·.sourceId == id))
    (.invalidBrief "Provider Source Registry가 내부 Source Registry와 일치하지 않습니다.")
  checkCandidate candidate (sources.filter fun source => providerSourceIds.contains source.sourceId)
  let grouped ← candidate.uncertaintySourceGroups.mapM fun group =>
    materializeGroup isDecimal sources group.sourceIds
  let notes ← uncertaintyNotes isDecimal joinSourceTexts sources (sources.filter isReported)
  let lacking ← escalationNote isDecimal sources
  let selected ← candidate.evidenceFindingSourceGroups.mapM (groupFinding isDecimal sources chunkIds)
  let selectedIds := selected.flatMap (·.sourceIds)
  let others ← (sources.filter fun source =>
    source.kind == .evidence && !selectedIds.contains source.sourceId).mapM
      (sourceFinding isDecimal chunkIds)
  let resolved (ids : List String) (kinds : List ContextSourceKind) :=
    resolveExact isDecimal sources (mergeWithInternalIds ids kinds sources)
  let safety ← resolved candidate.safetyConstraintIds [.safety]
  let issueSummary ← materializeGroup isDecimal sources candidate.issueSummarySourceIds
  let facts ← resolved candidate.customerReportedFactIds [.customerReported, .questionnaire]
  let attempted ← resolved candidate.attemptedActionIds [.attemptedAction]
  let unresolved ← resolved candidate.unresolvedQuestionIds [.unresolved]
  let priority ← resolved candidate.consultantPriorityCheckIds [.priority]
  checkBrief ⟨safety, issueSummary, facts, attempted, unresolved, selected ++ others, priority,
    stableUniqueStatements (grouped ++ notes ++ lacking)⟩

end
end WaterCare.Ai.ConsultationContext
