import Mathlib.Data.Fintype.Card
import WaterCare.Ai.Pipeline
import WaterCare.Ai.ReliabilityPass

/-!
Rounds of questions: a run that waits asks for what no answer was given to yet, so the customer
waits at most once for each field, and a run that has nothing left to ask fails closed.
-/

namespace WaterCare.Ai.Pipeline
open Store Analysis Machine Py SymptomStructurer Clarification Harness Reliability

/-! ### The fields of questions -/

instance : Fintype TargetField where
  elems := {.occurrenceTime, .targetWaterType, .occurrenceCondition, .actionsTaken,
    .tasteOdorApplicability}
  complete field := by cases field <;> decide

/-- A question for a field, by its id and by its target. -/
structure Asks (question : FollowUpQuestion) (field : TargetField) : Prop where
  id : question.questionId = questionId field
  target : question.targetField = field.name

theorem fieldOfQuestion_questionId (field : TargetField) :
    fieldOfQuestion (questionId field) = some field := by
  cases field <;> decide

theorem name_injective {field other : TargetField} (h : field.name = other.name) :
    field = other := by
  cases field <;> cases other <;> first | rfl | exact absurd h (by decide)

theorem asks_reword {wording : Wording} {question : FollowUpQuestion} {field : TargetField}
    (asks : Asks question field) : Asks (reword wording question) field := by
  unfold reword
  split
  · exact asks
  · exact ⟨asks.id, asks.target⟩

theorem fixedQuestions_asks {missing : List MissingField} {question : FollowUpQuestion}
    (member : question ∈ fixedQuestions missing) :
    ∃ item ∈ missing, Asks question item.field := by
  have ⟨item, found, definition⟩ := List.mem_filterMap.1 member
  have ⟨_, _, same⟩ := Option.map_eq_some_iff.1 definition
  exact ⟨item, found, same ▸ ⟨rfl, rfl⟩⟩

theorem generate_asks {wording : Wording} {missing : List MissingField}
    {question : FollowUpQuestion} (member : question ∈ generate wording missing) :
    ∃ item ∈ missing, Asks question item.field := by
  have ⟨fixed, found, same⟩ := List.mem_map.1 member
  have ⟨item, listed, asks⟩ := fixedQuestions_asks found
  exact ⟨item, listed, same ▸ asks_reword asks⟩

/-- Every field but that of the gate has its question. -/
theorem asked_of_missing (wording : Wording) {missing : List MissingField} {item : MissingField}
    (member : item ∈ missing) (own : item.field ≠ .tasteOdorApplicability) :
    ∃ question ∈ generate wording missing, Asks question item.field := by
  have ⟨definition, defined⟩ : ∃ definition, questions item.field = some definition := by
    cases field : item.field with
    | tasteOdorApplicability => exact absurd field own
    | occurrenceTime | targetWaterType | occurrenceCondition | actionsTaken => exact ⟨_, rfl⟩
  have fixed : (⟨questionId item.field, definition.1, definition.2, item.field.name⟩ :
      FollowUpQuestion) ∈ fixedQuestions missing := by
    refine List.mem_filterMap.2 ⟨item, member, ?_⟩
    rw [defined]
    rfl
  exact ⟨_, List.mem_map_of_mem fixed, asks_reword ⟨rfl, rfl⟩⟩

/-! ### The guard -/

section Guard
variable {previous : List PreviousAnswer} {question : FollowUpQuestion} {field : TargetField}

/-- A question was answered before iff its field was. -/
theorem wasAnswered_iff (asks : Asks question field) :
    wasAnswered previous question = true ↔ field ∈ answeredTargetFields previous := by
  unfold wasAnswered
  rw [Bool.or_eq_true, List.contains_iff_mem, List.any_eq_true, asks.id, asks.target]
  constructor
  · intro answered
    cases answered with
    | inl byId =>
        have ⟨answer, found, same⟩ := List.mem_map.1 byId
        refine List.mem_filterMap.2 ⟨answer, found, ?_⟩
        rw [same]
        exact fieldOfQuestion_questionId field
    | inr byField =>
        have ⟨other, found, same⟩ := byField
        rw [← name_injective (eq_of_beq same)]
        exact found
  · exact fun answered => .inr ⟨field, answered, beq_self_eq_true _⟩

theorem mem_filterFrom {questions : List FollowUpQuestion} {seen : List String}
    (member : question ∈ filterFrom previous seen questions) :
    question ∈ questions ∧ wasAnswered previous question = false := by
  induction questions generalizing seen with
  | nil => exact absurd member List.not_mem_nil
  | cons first rest ih =>
      unfold filterFrom at member
      split at member
      · have ⟨found, fresh⟩ := ih member
        exact ⟨List.mem_cons_of_mem _ found, fresh⟩
      · next kept =>
          cases List.mem_cons.1 member with
          | inl same =>
              subst same
              rw [Bool.or_eq_true, not_or] at kept
              exact ⟨List.mem_cons_self, Bool.eq_false_iff.2 kept.1⟩
          | inr later =>
              have ⟨found, fresh⟩ := ih later
              exact ⟨List.mem_cons_of_mem _ found, fresh⟩

/-- The guard leaves a question for every field that has one and was not answered. -/
theorem target_filterFrom {questions : List FollowUpQuestion} {seen : List String}
    (member : question ∈ questions) (fresh : wasAnswered previous question = false)
    (unseen : question.targetField ∉ seen) :
    ∃ kept ∈ filterFrom previous seen questions, kept.targetField = question.targetField := by
  induction questions generalizing seen with
  | nil => exact absurd member List.not_mem_nil
  | cons first rest ih =>
      unfold filterFrom
      split
      · next dropped =>
          cases List.mem_cons.1 member with
          | inl same =>
              subst same
              rw [fresh, Bool.false_or, List.contains_iff_mem] at dropped
              exact absurd dropped unseen
          | inr later => exact ih later unseen
      · by_cases same : question.targetField = first.targetField
        · exact ⟨first, List.mem_cons_self, same.symm⟩
        · have later : question ∈ rest := by
            cases List.mem_cons.1 member with
            | inl equal => exact absurd (congrArg FollowUpQuestion.targetField equal) same
            | inr later => exact later
          have still : question.targetField ∉ first.targetField :: seen := by
            simp only [List.mem_cons, not_or]
            exact ⟨same, unseen⟩
          obtain ⟨kept, found, target⟩ := ih later still
          exact ⟨kept, List.mem_cons_of_mem _ found, target⟩

end Guard

/-! ### The stage -/

section Stage
variable {nfc : Text → Text} {wording : Wording} {symptom : StructuredSymptom}
  {previous : List PreviousAnswer}

/-- No rule is about the field of the gate. -/
theorem check_own {item : MissingField} (member : item ∈ check symptom) :
    item.field ≠ .tasteOdorApplicability := by
  have rules : ∀ rule ∈ fieldRules symptom.symptomType, rule.field ≠ .tasteOdorApplicability := by
    unfold fieldRules
    split
    · next entry found =>
        have listed := List.mem_of_find?_eq_some found
        have all : ∀ entry ∈ fieldRulesBySymptom, ∀ rule ∈ entry.2,
            rule.field ≠ .tasteOdorApplicability := by decide
        exact all entry listed
    · decide
  cases List.mem_append.1 member with
  | inl ruled => exact rules item (List.mem_filter.1 ruled).1
  | inr action =>
      split at action
      · rw [List.mem_singleton.1 action]
        decide
      · exact absurd action List.not_mem_nil

/-- The field of the gate is missing iff the gate has no condition that it supports. -/
theorem mem_missingOf_gate :
    (∃ item ∈ missingOf nfc symptom previous, item.field = .tasteOdorApplicability) ↔
      symptom.symptomType = tasteOrOdorSymptom ∧
        supported (classifyForSymptom nfc symptom.symptomType previous) = false := by
  have ruled : ∀ item ∈ check symptom, item.field ≠ .tasteOdorApplicability :=
    fun item member => check_own member
  unfold missingOf
  dsimp only
  split
  · next gate =>
      refine iff_of_true ⟨applicabilityMissing, ?_, rfl⟩ gate
      exact List.mem_append_right _ List.mem_cons_self
  · next gate =>
      refine iff_of_false ?_ gate
      intro ⟨item, member, own⟩
      exact ruled item member own

/-- A field that is required and missing is missing. -/
theorem missing_of_required {symptomType : Text} {missing : List MissingField} {field : TargetField}
    (required : field ∈ requiredMissingFields symptomType missing) :
    ∃ item ∈ missing, item.field = field := by
  cases List.mem_append.1 required with
  | inl high =>
      have ⟨item, found, same⟩ := List.mem_map.1 high
      exact ⟨item, (List.mem_filter.1 found).1, same⟩
  | inr gate =>
      have listed := (List.mem_filter.1 gate).2
      rw [List.contains_iff_mem] at listed
      have ⟨item, found, same⟩ := List.mem_map.1 listed
      exact ⟨item, found, same⟩

/-- Whatever the gate misses is required. -/
theorem required_of_gate
    (gate : symptom.symptomType = tasteOrOdorSymptom ∧
      supported (classifyForSymptom nfc symptom.symptomType previous) = false) :
    TargetField.tasteOdorApplicability ∈
      requiredMissingFields symptom.symptomType (missingOf nfc symptom previous) := by
  have ⟨item, member, own⟩ := mem_missingOf_gate.2 gate
  refine List.mem_append_right _ (List.mem_filter.2 ⟨?_, ?_⟩)
  · unfold requiredFields
    rw [if_pos gate.1]
    decide
  · rw [List.contains_iff_mem, ← own]
    exact List.mem_map_of_mem member

/-- The policy waits iff a required field is missing. -/
theorem shouldWait_iff {risk : RiskLevel} (calm : risk ≠ .danger) :
    shouldWaitForCustomerInput nfc risk symptom.symptomType (missingOf nfc symptom previous)
        previous = true ↔
      requiredMissingFields symptom.symptomType (missingOf nfc symptom previous) ≠ [] := by
  unfold shouldWaitForCustomerInput
  rw [if_neg calm, Bool.or_eq_true, Bool.not_eq_true', List.isEmpty_eq_false_iff]
  refine ⟨fun waits => ?_, .inr⟩
  cases waits with
  | inr required => exact required
  | inl more =>
      unfold requiresMoreInformation at more
      rw [Bool.or_eq_true, Bool.not_eq_true', List.isEmpty_eq_false_iff, Bool.and_eq_true] at more
      cases more with
      | inl gate => exact fun empty => gate (List.append_eq_nil_iff.1 empty).2
      | inr unsupported =>
          have taste : symptom.symptomType = tasteOrOdorSymptom := eq_of_beq unsupported.1
          have gate : supported (classifyForSymptom nfc symptom.symptomType previous) = false := by
            unfold classifyForSymptom
            rw [if_pos taste]
            simpa using unsupported.2
          exact List.ne_nil_of_mem (required_of_gate ⟨taste, gate⟩)

/-- The questions of the stage ask for fields; those that the guard let through were not answered,
and the one of the gate is asked for a field that is required. -/
theorem stage_asks {question : FollowUpQuestion}
    (member : question ∈ (missingFieldsStage nfc wording symptom previous).followupQuestions)
    (open_ : unresolvedAnsweredRequiredFields
      (missingFieldsStage nfc wording symptom previous).symptom.symptomType
      (missingFieldsStage nfc wording symptom previous).missingFields previous = []) :
    ∃ field, Asks question field ∧ field ∉ answeredTargetFields previous := by
  unfold missingFieldsStage at member open_
  dsimp only at member open_
  cases List.mem_append.1 member with
  | inl kept =>
      have ⟨generated, fresh⟩ := mem_filterFrom kept
      have ⟨item, _, asks⟩ := generate_asks generated
      refine ⟨item.field, asks, fun answered => ?_⟩
      rw [(wasAnswered_iff asks).2 answered] at fresh
      cases fresh
  | inr gate =>
      unfold followupQuestion at gate
      split at gate
      · next asked =>
          rw [Option.toList_some, List.mem_singleton] at gate
          refine ⟨.tasteOdorApplicability, gate ▸ ⟨by decide, rfl⟩, fun answered => ?_⟩
          have unsupported : supported (classifyForSymptom nfc
              (withApplicability nfc symptom previous).symptomType previous) = false := by
            unfold classifyForSymptom
            rw [if_pos asked.1, Option.isNone_iff_eq_none.1 asked.2]
            rfl
          have required := required_of_gate ⟨asked.1, unsupported⟩
          have listed : TargetField.tasteOdorApplicability ∈ unresolvedAnsweredRequiredFields
              (withApplicability nfc symptom previous).symptomType
              (missingOf nfc (withApplicability nfc symptom previous) previous) previous :=
            List.mem_filter.2 ⟨required, List.contains_iff_mem.2 answered⟩
          rw [open_] at listed
          exact List.not_mem_nil listed
      · exact absurd gate List.not_mem_nil

/-- Where the gate has its condition, the customer answered its question. -/
theorem answered_of_classify (answered : ∀ answer ∈ previous, isAnswered answer = true)
    {applicability : EvidenceApplicability}
    (classified : classify nfc previous = some applicability) :
    TargetField.tasteOdorApplicability ∈ answeredTargetFields previous := by
  unfold classify at classified
  split at classified
  · cases classified
  · next answer found =>
      have listed := List.mem_reverse.1 (List.mem_of_find?_eq_some found)
      refine List.mem_filterMap.2 ⟨answer, List.mem_filter.2 ⟨listed, answered answer listed⟩, ?_⟩
      have own := List.find?_some (p := fun answer : PreviousAnswer =>
        answer.questionId == applicabilityQuestionId) found
      rw [eq_of_beq own]
      rfl

/-- Where a required field is missing and none of them was answered, there is a question. -/
theorem stage_has_question (answered : ∀ answer ∈ previous, isAnswered answer = true)
    (required : requiredMissingFields
      (missingFieldsStage nfc wording symptom previous).symptom.symptomType
      (missingFieldsStage nfc wording symptom previous).missingFields ≠ [])
    (open_ : unresolvedAnsweredRequiredFields
      (missingFieldsStage nfc wording symptom previous).symptom.symptomType
      (missingFieldsStage nfc wording symptom previous).missingFields previous = []) :
    (missingFieldsStage nfc wording symptom previous).followupQuestions ≠ [] := by
  have ⟨field, listed⟩ := List.exists_mem_of_ne_nil _ required
  have unanswered : field ∉ answeredTargetFields previous := by
    intro answered
    have resolved : field ∈ unresolvedAnsweredRequiredFields
        (missingFieldsStage nfc wording symptom previous).symptom.symptomType
        (missingFieldsStage nfc wording symptom previous).missingFields previous :=
      List.mem_filter.2 ⟨listed, List.contains_iff_mem.2 answered⟩
    rw [open_] at resolved
    exact List.not_mem_nil resolved
  have ⟨item, missing, own⟩ := missing_of_required listed
  unfold missingFieldsStage at missing ⊢
  dsimp only at missing ⊢
  by_cases gate : field = .tasteOdorApplicability
  · have ⟨taste, unsupported⟩ := mem_missingOf_gate.1 ⟨item, missing, own.trans gate⟩
    have unclassified : (classify nfc previous).isNone = true := by
      cases classified : classify nfc previous with
      | none => rfl
      | some applicability =>
          rw [gate] at unanswered
          exact absurd (answered_of_classify answered classified) unanswered
    refine List.append_ne_nil_of_right_ne_nil _ ?_
    unfold followupQuestion
    rw [if_pos ⟨taste, unclassified⟩]
    exact List.cons_ne_nil _ _
  · have ⟨question, generated, asks⟩ := asked_of_missing wording missing (own ▸ gate)
    have fresh : wasAnswered previous question = false := by
      refine Bool.eq_false_iff.2 fun answered => unanswered ?_
      rw [← own]
      exact (wasAnswered_iff asks).1 answered
    have ⟨kept, found, _⟩ := target_filterFrom generated fresh List.not_mem_nil
    exact List.append_ne_nil_of_left_ne_nil (List.ne_nil_of_mem found) _

end Stage

/-! ### The pipeline -/

section Run
variable {r : Router} {modelCode : List Char} {analysed : Analysed} {request : Request}

/-- What the missing fields stage makes of a request. -/
def clarifiedOf (r : Router) (analysed : Analysed) (request : Request) : Clarified :=
  missingFieldsStage r.nfc r.wording analysed.symptom request.previousAnswers

/-- The required fields that a request leaves missing. -/
def requiredOf (r : Router) (analysed : Analysed) (request : Request) : List TargetField :=
  requiredMissingFields (clarifiedOf r analysed request).symptom.symptomType
    (clarifiedOf r analysed request).missingFields

/-- Those of them that were asked for and answered. -/
def unresolvedOf (r : Router) (analysed : Analysed) (request : Request) : List TargetField :=
  unresolvedAnsweredRequiredFields (clarifiedOf r analysed request).symptom.symptomType
    (clarifiedOf r analysed request).missingFields request.previousAnswers

theorem shouldWait_clarifiedOf (r : Router) (request : Request)
    (calm : analysed.safety.riskLevel ≠ .danger) :
    shouldWaitForCustomerInput r.nfc analysed.safety.riskLevel
        (clarifiedOf r analysed request).symptom.symptomType
        (clarifiedOf r analysed request).missingFields request.previousAnswers = true ↔
      requiredOf r analysed request ≠ [] :=
  shouldWait_iff calm

/-- A state without the number of its calls. -/
def still (s : State) : State := { s with calls := 0 }

theorem keeps_still_token {o : Outside} : (callUnit o.token).Keeps still := fun _ => rfl

/-- What the validation of a guidance leaves, all of it but the message. -/
def validated (s : State) :=
  (s.ctx.usageGuidance.map (·.guidanceStatus), s.ctx.safetyAssessment,
    s.ctx.awaitingCustomerInput, s.ctx.evidenceReferences, s.ctx.retrievalOutcome,
    s.ctx.retryCount, s.capture, s.reviews, s.handoffs)

theorem keeps_validationStage (o : Outside) : (validationStage o).Keeps validated := by
  intro s
  unfold validationStage
  split
  · next guidance found =>
      split
      · rfl
      · unfold validated
        rw [found]
        rfl
  · rfl

theorem keeps_validation (o : Outside) : (deadlineScope o (validationStage o)).Keeps validated :=
  keeps_deadlineScope o (fun _ => rfl) (keeps_validationStage o)

theorem questionnairePendingStage_waiting {s t : State} {safety : SafetyAssessment}
    {previous : List PreviousAnswer} {clarified asked : Clarified}
    (assessed : s.ctx.safetyAssessment = some safety) (unsearched : s.capture = ⟨[], [], []⟩)
    (ran : questionnairePendingStage previous clarified s = (.ok asked, t)) :
    Waiting t ∧ t.reviews = s.reviews ∧ t.handoffs = s.handoffs ∧
      asked.symptom = clarified.symptom ∧ asked.missingFields = clarified.missingFields ∧
      asked.followupQuestions =
        if unresolvedAnsweredRequiredFields clarified.symptom.symptomType clarified.missingFields
            previous = [] then clarified.followupQuestions else [] := by
  unfold questionnairePendingStage at ran
  rw [assessed] at ran
  have ⟨same, state⟩ := Prod.mk.inj ran
  rw [← state, ← Except.ok.inj same]
  refine ⟨⟨rfl, ⟨_, rfl, rfl⟩, rfl, unsearched⟩, rfl, rfl, ?_⟩
  by_cases open_ : unresolvedAnsweredRequiredFields clarified.symptom.symptomType
      clarified.missingFields previous = []
  · rw [open_]
    exact ⟨rfl, rfl, rfl⟩
  · rw [List.isEmpty_eq_false_iff.2 open_, if_neg open_]
    exact ⟨rfl, rfl, rfl⟩

/-- A run that waits: its questions are those of the stage, or none where one was answered in
vain. -/
theorem pipeline_waits (calm : analysed.safety.riskLevel ≠ .danger)
    (required : requiredOf r analysed request ≠ []) {clarified : Clarified} {s : State}
    (ran : r.pipeline modelCode analysed request (.start analysed.context ⟨[], [], []⟩) =
      (.ok clarified, s)) :
    Waiting s ∧ s.Quiet ∧ clarified.symptom = (clarifiedOf r analysed request).symptom ∧
      clarified.missingFields = (clarifiedOf r analysed request).missingFields ∧
      clarified.followupQuestions =
        if unresolvedOf r analysed request = [] then
          (clarifiedOf r analysed request).followupQuestions
        else [] := by
  have waits := (shouldWait_clarifiedOf r request calm).2 required
  unfold Router.pipeline singleRag at ran
  rw [if_neg calm] at ran
  obtain ⟨_, s₁, checked, ran⟩ := Step.andThen_eq_ok.1 ran
  unfold clarifiedOf at waits
  rw [waits] at ran
  unfold afterMissingFields at ran
  rw [if_pos rfl] at ran
  obtain ⟨_, s₂, token, ran⟩ := Step.andThen_eq_ok.1 ran
  obtain ⟨asked, s₃, pending, ran⟩ := Step.andThen_eq_ok.1 ran
  obtain ⟨_, s₄, token', ran⟩ := Step.andThen_eq_ok.1 ran
  obtain ⟨_, s₅, validated, returned⟩ := Step.andThen_eq_ok.1 ran
  have before : still s₂ = still (.start analysed.context ⟨[], [], []⟩) := by
    have first := keeps_deadlineScope (f := still) (r.outside modelCode analysed request)
      (fun _ => rfl) (keeps_return (.ok ())) (.start analysed.context ⟨[], [], []⟩)
    have second := keeps_still_token (o := r.outside modelCode analysed request) s₁
    rw [checked] at first
    rw [token] at second
    exact second.trans first
  have assessed : s₂.ctx.safetyAssessment = some analysed.safety :=
    congrArg (·.ctx.safetyAssessment) before
  have unsearched : s₂.capture = ⟨[], [], []⟩ := congrArg (·.capture) before
  obtain ⟨waiting, reviews, handoffs, asks⟩ :=
    questionnairePendingStage_waiting assessed unsearched pending
  have after : Pipeline.validated s₅ = Pipeline.validated s₃ := by
    have second := keeps_validation (r.outside modelCode analysed request) s₄
    rw [validated] at second
    have between := congrArg (fun ended => Pipeline.validated ended.2) token'
    exact second.trans (between.symm.trans (keeps_call (fun _ => rfl) _ s₃))
  obtain ⟨same, state⟩ := Prod.mk.inj returned
  rw [← state, ← Except.ok.inj same]
  unfold Pipeline.validated at after
  simp only [Prod.mk.injEq] at after
  obtain ⟨status, safety, awaits, _, _, _, capture, reviews', handoffs'⟩ := after
  refine ⟨⟨awaits.trans waiting.awaits, ?_, ?_, capture.trans waiting.unsearched⟩,
    ⟨reviews'.trans ?_, handoffs'.trans ?_⟩, asks⟩
  · rw [safety]
    exact waiting.caution
  · have guided := congrArg Option.isSome status
    rw [Option.isSome_map, Option.isSome_map] at guided
    exact guided.trans waiting.guided
  · exact reviews.trans (congrArg (·.reviews) before)
  · exact handoffs.trans (congrArg (·.handoffs) before)

/-- A run in which no required field is missing goes on to the search. -/
theorem pipeline_searches (calm : analysed.safety.riskLevel ≠ .danger)
    (required : requiredOf r analysed request = []) :
    r.pipeline modelCode analysed request =
      (deadlineScope (r.outside modelCode analysed request) fun s => (.ok (), s)).andThen fun _ =>
        (deadlineScope (r.outside modelCode analysed request) (retrievalStage r.u
          (r.outside modelCode analysed request) (r.args modelCode))).andThen fun _ =>
            (deadlineScope (r.outside modelCode analysed request) (generationStage r.config
              (r.outside modelCode analysed request))).andThen fun _ =>
                (deadlineScope (r.outside modelCode analysed request) (validationStage
                  (r.outside modelCode analysed request))).andThen fun _ s =>
                    (.ok (clarifiedOf r analysed request), s) := by
  have goesOn : shouldWaitForCustomerInput r.nfc analysed.safety.riskLevel
      (clarifiedOf r analysed request).symptom.symptomType
      (clarifiedOf r analysed request).missingFields request.previousAnswers = false :=
    Bool.eq_false_iff.2 fun waits => (shouldWait_clarifiedOf r request calm).1 waits required
  unfold Router.pipeline singleRag
  rw [if_neg calm]
  dsimp only
  unfold clarifiedOf at goesOn
  rw [goesOn]
  rfl

theorem runPipeline_eq_ok {result : PipelineResult}
    (ran : r.runPipeline modelCode analysed request = .ok result) :
    ∃ s t, r.pipeline modelCode analysed request (.start analysed.context ⟨[], [], []⟩) =
        (.ok result.clarified, s) ∧
      Reliability.run r.u r.config (r.outside modelCode analysed request) (r.args modelCode) s =
        (.ok result.reliability, t) ∧
      result.context = t.ctx := by
  unfold Router.runPipeline at ran
  split at ran
  · cases ran
  · next clarified s piped =>
      split at ran
      · cases ran
      · next reliability t judged =>
          have same := Except.ok.inj ran
          subst same
          exact ⟨s, t, piped, judged, rfl⟩

theorem plain_args : Plain (r.args modelCode) := ⟨rfl, rfl, rfl⟩

/-- A result whose context waits: a required field is missing, the questions are those of the stage
or none, and nothing is left that a customer may be sent. -/
theorem runPipeline_waits (calm : analysed.safety.riskLevel ≠ .danger) {result : PipelineResult}
    (ran : r.runPipeline modelCode analysed request = .ok result)
    (awaits : result.context.awaitingCustomerInput = true) :
    requiredOf r analysed request ≠ [] ∧
      result.clarified.symptom = (clarifiedOf r analysed request).symptom ∧
      result.clarified.missingFields = (clarifiedOf r analysed request).missingFields ∧
      (result.clarified.followupQuestions =
        if unresolvedOf r analysed request = [] then
          (clarifiedOf r analysed request).followupQuestions
        else []) ∧
      ∃ safety, result.context.safetyAssessment = some safety ∧ safety.riskLevel = .caution := by
  have ⟨s, t, piped, judged, context⟩ := runPipeline_eq_ok ran
  have kept := keepsWaiting_run r.u r.config (r.outside modelCode analysed request)
    (r.args modelCode) s
  rw [judged] at kept
  by_cases required : requiredOf r analysed request = []
  · have searched : (r.pipeline modelCode analysed request).Keeps waits := by
      rw [pipeline_searches calm required]
      refine (keeps_deadlineScope _ (fun _ => rfl) (keeps_return _)).andThen fun _ =>
        (keeps_deadlineScope _ (fun _ => rfl) (keepsWaiting_retrievalStage _ _ _)).andThen fun _ =>
          (keeps_deadlineScope _ (fun _ => rfl) (keepsWaiting_generationStage _ _)).andThen fun _ =>
            (keeps_deadlineScope _ (fun _ => rfl) (keepsWaiting_validationStage _)).andThen
              fun _ => keeps_return _
    have never := searched (.start analysed.context ⟨[], [], []⟩)
    rw [piped] at never
    have still := kept.trans never
    unfold waits at still
    rw [← context, awaits] at still
    cases still
  · have ⟨waiting, quiet, asks⟩ := pipeline_waits calm required piped
    have left := run_waiting waiting quiet plain_args judged
    rw [context, left]
    exact ⟨required, asks.1, asks.2.1, asks.2.2, waiting.caution⟩

end Run

/-! ### The public result of a run that waits -/

section Public
variable {result : PipelineResult} {request : Request} {shown : SymptomAnalysisResult}

/-- The routing leaves the questions, and the risk of a result that is a fallback already. -/
theorem routes_followupQuestions {response shown : SymptomAnalysisResult}
    {accepted : Option (List String)} {disposition : ResponseRoutingDisposition}
    (routes : ResponseRoutingPolicy.Routes response accepted shown disposition) :
    shown.followupQuestions = response.followupQuestions := by
  cases routes with
  | existing | danger | pending | caution | general => rfl
  | invalid => rfl

theorem normalize_riskLevel (response : SymptomAnalysisResult) :
    (ResponseRoutingPolicy.normalizeExistingFallback response).safetyAssessment.riskLevel =
      response.safetyAssessment.riskLevel := by
  unfold ResponseRoutingPolicy.normalizeExistingFallback
  dsimp only
  split
  · rfl
  · rfl

/-- The result of the run before the routing. -/
theorem toAnalysisResult_eq_ok (public_ : result.toAnalysisResult request = .ok shown) :
    ∃ response, result.analysisResult request = .ok response ∧
      shown = (ResponseRoutingPolicy.apply response
        (some
          result.reliability.harnessRuntime.harness.verification.acceptedEvidenceChunkIds)).1 := by
  have ⟨response, built, same⟩ := map_eq_ok.1 public_
  exact ⟨response, built, same.symm⟩

theorem analysisResult_eq_ok {response : SymptomAnalysisResult}
    (built : result.analysisResult request = .ok response) :
    response.status = result.status request ∧
      response.followupQuestions = result.clarified.followupQuestions ∧
      response.missingFields = result.clarified.missingFields.map (·.field.name) ∧
      response.evidenceReferences = result.context.evidenceReferences ∧
      result.context.safetyAssessment = some response.safetyAssessment ∧
      result.context.usageGuidance = some response.usageGuidance := by
  unfold PipelineResult.analysisResult at built
  split at built
  · next safety guidance assessed guided =>
      split at built
      · split at built
        · have same := Except.ok.inj built
          rw [← same]
          exact ⟨rfl, rfl, rfl, rfl, assessed, guided⟩
        · cases built
      · cases built
  · cases built

/-- What a run that waits may show: new questions, or a fallback to the consultation. -/
structure Pending (previous : List PreviousAnswer) (shown : SymptomAnalysisResult) : Prop where
  fresh : shown.status = .succeeded → ∀ question ∈ shown.followupQuestions,
    ∃ field, Asks question field ∧ field ∉ answeredTargetFields previous
  asks : shown.status = .succeeded → shown.followupQuestions ≠ []
  silent : shown.followupQuestions = [] → shown.status = .fallback ∧
    shown.usageGuidance.guidanceStatus = .pendingConsultation

theorem pending_of_waits {r : Router} {modelCode : List Char} {analysed : Analysed}
    (calm : analysed.safety.riskLevel ≠ .danger)
    (answered : ∀ answer ∈ request.previousAnswers, isAnswered answer = true)
    (ran : r.runPipeline modelCode analysed request = .ok result)
    (awaits : result.context.awaitingCustomerInput = true)
    (public_ : result.toAnalysisResult request = .ok shown) :
    Pending request.previousAnswers shown := by
  have ⟨required, symptom, missing, questions, safety, assessed, caution⟩ :=
    runPipeline_waits calm ran awaits
  have ⟨response, built, same⟩ := toAnalysisResult_eq_ok public_
  have ⟨status, followups, _, _, safe, guided⟩ := analysisResult_eq_ok built
  have routes := ResponseRoutingPolicy.apply_routes response
    (some result.reliability.harnessRuntime.harness.verification.acceptedEvidenceChunkIds)
  rw [← same] at routes
  have shownQuestions : shown.followupQuestions = result.clarified.followupQuestions :=
    (routes_followupQuestions routes).trans followups
  -- a required field that was answered in vain leaves no question and closes the run
  have closes : unresolvedOf r analysed request ≠ [] → response.status = .fallback := by
    intro vain
    have none : result.clarified.followupQuestions = [] := by rw [questions, if_neg vain]
    have clarification : result.clarificationFallback request = true := by
      unfold PipelineResult.clarificationFallback
      rw [awaits, none, symptom, missing, List.isEmpty_nil, Bool.true_and, Bool.true_and,
        Bool.not_eq_true', List.isEmpty_eq_false_iff]
      exact vain
    rw [status, PipelineResult.status, PipelineResult.isFallback, clarification, Bool.or_true,
      if_pos rfl]
  have open_ : response.status = .succeeded → unresolvedOf r analysed request = [] := by
    intro succeeded
    by_contra vain
    rw [closes vain] at succeeded
    cases succeeded
  have kept : shown.status = .succeeded → response.status = .succeeded := by
    intro succeeded
    by_contra failed
    have fallback : response.status = .fallback := by
      cases found : response.status with
      | succeeded => exact absurd found failed
      | fallback => rfl
    rw [ResponseRoutingPolicy.apply_fallback fallback] at same
    rw [same] at succeeded
    have closed : (ResponseRoutingPolicy.normalizeExistingFallback response).status = .fallback :=
      fallback
    rw [closed] at succeeded
    cases succeeded
  have asks : unresolvedOf r analysed request = [] → shown.followupQuestions =
      (clarifiedOf r analysed request).followupQuestions := by
    intro none
    rw [shownQuestions, questions, if_pos none]
  refine ⟨?_, ?_, ?_⟩
  · intro succeeded question member
    have none := open_ (kept succeeded)
    rw [asks none] at member
    exact stage_asks member none
  · intro succeeded
    have none := open_ (kept succeeded)
    rw [asks none]
    exact stage_has_question answered required none
  · intro silent
    have fallback : response.status = .fallback := by
      refine closes fun none => ?_
      rw [asks none] at silent
      exact stage_has_question answered required none silent
    have closed := ResponseRoutingPolicy.normalize_closed fallback
    have normal : shown = ResponseRoutingPolicy.normalizeExistingFallback response := by
      rw [same, ResponseRoutingPolicy.apply_fallback fallback]
    have risk : shown.safetyAssessment.riskLevel ≠ .danger := by
      rw [assessed] at safe
      rw [normal, normalize_riskLevel, ← Option.some.inj safe, caution]
      nofun
    rw [normal] at risk ⊢
    exact ⟨closed.fallback, closed.blocks.resolve_left risk⟩

end Public

/-! ### Rounds -/

/-- A round on an inquiry: what the outside and the language models do in it, what the structuring
and the safety check make of the texts, and how the customer answers a question. -/
structure Round where
  router : Router
  modelCode : List Char
  request : Request
  analysed : Analysed
  answer : FollowUpQuestion → Text

namespace Round

/-- The request of a round, with the answers so far. -/
def requestWith (round : Round) (previous : List PreviousAnswer) : Request :=
  { round.request with previousAnswers := previous }

/-- The public result of a round that waits. -/
def waiting (round : Round) (previous : List PreviousAnswer) : Option SymptomAnalysisResult :=
  match round.router.runPipeline round.modelCode round.analysed (round.requestWith previous) with
  | .error _ => none
  | .ok result =>
      if result.context.awaitingCustomerInput then
        (result.toAnalysisResult (round.requestWith previous)).toOption
      else none

/-- The answers of the customer to the questions of a round that waits. -/
def answers (round : Round) (previous : List PreviousAnswer) : List PreviousAnswer :=
  match round.waiting previous with
  | none => []
  | some shown => shown.followupQuestions.map fun question =>
      ⟨question.questionId, round.answer question⟩

end Round

/-- The answers so far, after some rounds. -/
def answersAfter (previous : List PreviousAnswer) : List Round → List PreviousAnswer
  | [] => previous
  | round :: rest => answersAfter (previous ++ round.answers previous) rest

/-- The results of the rounds that wait, without those that were turned into a fallback. -/
def pendingResults (previous : List PreviousAnswer) : List Round → List SymptomAnalysisResult
  | [] => []
  | round :: rest =>
      ((round.waiting previous).filter (·.status == .succeeded)).toList ++
        pendingResults (previous ++ round.answers previous) rest

/-- A round that is not in danger, with a customer who answers every question. -/
structure Answering (round : Round) : Prop where
  calm : round.analysed.safety.riskLevel ≠ .danger
  answers : ∀ question, stripChars (round.answer question) ≠ []

/-- Every answer says something. -/
def Answered (previous : List PreviousAnswer) : Prop :=
  ∀ answer ∈ previous, isAnswered answer = true

section Rounds
variable {round : Round} {previous : List PreviousAnswer}

theorem pending_round (answering : Answering round) (answered : Answered previous)
    {shown : SymptomAnalysisResult} (waits : round.waiting previous = some shown) :
    Pending previous shown := by
  unfold Round.waiting at waits
  split at waits
  · cases waits
  · next result ran =>
      split at waits
      · next awaits =>
          cases public_ : result.toAnalysisResult (round.requestWith previous) with
          | error fault =>
              rw [public_] at waits
              cases waits
          | ok response =>
              rw [public_] at waits
              have same : response = shown := Option.some.inj waits
              rw [← same]
              have said : ∀ answer ∈ (round.requestWith previous).previousAnswers,
                  isAnswered answer = true := answered
              exact pending_of_waits answering.calm said ran awaits public_
      · cases waits

theorem answered_answers (answering : Answering round) (answered : Answered previous) :
    Answered (previous ++ round.answers previous) := by
  intro answer member
  cases List.mem_append.1 member with
  | inl before => exact answered answer before
  | inr new =>
      unfold Round.answers at new
      split at new
      · exact absurd new List.not_mem_nil
      · have ⟨question, _, same⟩ := List.mem_map.1 new
        rw [← same]
        unfold isAnswered
        rw [List.isEmpty_eq_false_iff.2 (answering.answers question)]
        rfl

theorem answeredTargetFields_append (previous more : List PreviousAnswer) :
    answeredTargetFields (previous ++ more) =
      answeredTargetFields previous ++ answeredTargetFields more := by
  unfold answeredTargetFields
  rw [List.filter_append, List.filterMap_append]

/-- Once a question was shown, its field is answered. -/
theorem answered_of_shown (answering : Answering round) {shown : SymptomAnalysisResult}
    (waits : round.waiting previous = some shown) {question : FollowUpQuestion}
    (asked : question ∈ shown.followupQuestions) {field : TargetField}
    (asks : Asks question field) :
    field ∈ answeredTargetFields (round.answers previous) := by
  have answer : (⟨question.questionId, round.answer question⟩ : PreviousAnswer) ∈
      round.answers previous := by
    unfold Round.answers
    rw [waits]
    exact List.mem_map_of_mem (f := fun asked : FollowUpQuestion =>
      (⟨asked.questionId, round.answer asked⟩ : PreviousAnswer)) asked
  refine List.mem_filterMap.2 ⟨_, List.mem_filter.2 ⟨answer, ?_⟩, ?_⟩
  · unfold isAnswered
    rw [List.isEmpty_eq_false_iff.2 (answering.answers question)]
    rfl
  · rw [asks.id]
    exact fieldOfQuestion_questionId field

/-- The fields that were answered. -/
def answeredFields (previous : List PreviousAnswer) : Finset TargetField :=
  (answeredTargetFields previous).toFinset

theorem answeredFields_mono (previous more : List PreviousAnswer) :
    answeredFields previous ⊆ answeredFields (previous ++ more) := by
  intro field member
  unfold answeredFields at member ⊢
  rw [List.mem_toFinset] at member ⊢
  rw [answeredTargetFields_append]
  exact List.mem_append_left _ member

/-- A round with questions answers a field that was not answered before. -/
theorem answeredFields_grow (answering : Answering round) (answered : Answered previous)
    {shown : SymptomAnalysisResult} (waits : round.waiting previous = some shown)
    (succeeded : shown.status = .succeeded) :
    (answeredFields previous).card <
      (answeredFields (previous ++ round.answers previous)).card := by
  have pending := pending_round answering answered waits
  have ⟨question, asked⟩ := List.exists_mem_of_ne_nil _ (pending.asks succeeded)
  have ⟨field, asks, unanswered⟩ := pending.fresh succeeded question asked
  have kept := answeredFields_mono previous (round.answers previous)
  refine Finset.card_lt_card ((Finset.ssubset_iff_of_subset kept).2 ⟨field, ?_, ?_⟩)
  · unfold answeredFields
    rw [List.mem_toFinset, answeredTargetFields_append]
    exact List.mem_append_right _ (answered_of_shown answering waits asked asks)
  · unfold answeredFields
    rw [List.mem_toFinset]
    exact unanswered

/-- Every round that waits uses up one of the fields. -/
theorem length_pendingResults {rounds : List Round} (answering : ∀ round ∈ rounds, Answering round)
    (answered : Answered previous) :
    (pendingResults previous rounds).length + (answeredFields previous).card ≤ 5 := by
  induction rounds generalizing previous with
  | nil =>
      have all := (answeredFields previous).card_le_univ
      have fields : Fintype.card TargetField = 5 := rfl
      rw [fields] at all
      simpa [pendingResults] using all
  | cons round rest ih =>
      have own := answering round List.mem_cons_self
      have later := ih (fun other member => answering other (List.mem_cons_of_mem _ member))
        (answered_answers own answered)
      unfold pendingResults
      rw [List.length_append]
      cases waits : round.waiting previous with
      | none =>
          have kept := Finset.card_le_card (answeredFields_mono previous (round.answers previous))
          simp only [Option.filter_none, Option.toList_none, List.length_nil]
          omega
      | some shown =>
          by_cases succeeded : shown.status = .succeeded
          · have grows := answeredFields_grow own answered waits succeeded
            rw [Option.filter_some, succeeded]
            simp only [beq_self_eq_true, if_true, Option.toList_some, List.length_singleton]
            omega
          · have kept := Finset.card_le_card (answeredFields_mono previous (round.answers previous))
            have dropped : (shown.status == ExecutionStatus.succeeded) = false :=
              beq_eq_false_iff_ne.2 succeeded
            rw [Option.filter_some, dropped]
            simp only [Bool.false_eq_true, if_false, Option.toList_none, List.length_nil]
            omega

theorem answered_answersAfter {rounds : List Round} (answering : ∀ round ∈ rounds, Answering round)
    (answered : Answered previous) : Answered (answersAfter previous rounds) := by
  induction rounds generalizing previous with
  | nil => exact answered
  | cons round rest ih =>
      exact ih (fun other member => answering other (List.mem_cons_of_mem _ member))
        (answered_answers (answering round List.mem_cons_self) answered)

/-- A question for a field that was not answered has an id that was not answered either. -/
theorem fresh_id {question : FollowUpQuestion} {field : TargetField} (asks : Asks question field)
    (answered : Answered previous) (fresh : field ∉ answeredTargetFields previous) :
    question.questionId ∉ previous.map (·.questionId) := by
  intro asked
  have ⟨answer, listed, same⟩ := List.mem_map.1 asked
  have kept := List.mem_filter.2 ⟨listed, answered answer listed⟩
  refine fresh (List.mem_filterMap.2 ⟨answer, kept, ?_⟩)
  rw [same, asks.id]
  exact fieldOfQuestion_questionId field

/-- Clarification ends: at most five rounds wait with questions, none of them asks what an earlier
round asked and the customer answered, and a round that waits without a question is a fallback to
the consultation. -/
theorem rounds_end (rounds : List Round) (answering : ∀ round ∈ rounds, Answering round) :
    (pendingResults [] rounds).length ≤ 5 ∧
      ∀ earlier round later, rounds = earlier ++ round :: later →
        ∀ shown, round.waiting (answersAfter [] earlier) = some shown →
          (shown.status = .succeeded → shown.followupQuestions ≠ [] ∧
            ∀ question ∈ shown.followupQuestions,
              question.questionId ∉ (answersAfter [] earlier).map (·.questionId)) ∧
          (shown.followupQuestions = [] → shown.status = .fallback ∧
            shown.usageGuidance.guidanceStatus = .pendingConsultation) := by
  have none : Answered [] := fun _ member => absurd member List.not_mem_nil
  constructor
  · have bound := length_pendingResults answering none
    omega
  · intro earlier round later split shown waits
    have before : ∀ other ∈ earlier, Answering other := by
      intro other member
      refine answering other ?_
      rw [split]
      exact List.mem_append_left _ member
    have own : Answering round := by
      refine answering round ?_
      rw [split]
      exact List.mem_append_right _ List.mem_cons_self
    have answered := answered_answersAfter before none
    have pending := pending_round own answered waits
    refine ⟨fun succeeded => ⟨pending.asks succeeded, fun question asked => ?_⟩, pending.silent⟩
    have ⟨field, asks, fresh⟩ := pending.fresh succeeded question asked
    exact fresh_id asks answered fresh

end Rounds

namespace Sample

def uuid : Uuid := ⟨"8c4d7a52-1f0e-4b8e-9a53-2d6c1f7e9b10", by decide +kernel⟩

/-- An approved product with one chunk in the table. -/
def router : Router where
  u := .basic
  nfc text := text
  config := Reliability.Sample.config
  world :=
    { outside := Reliability.Sample.outside (.ok [])
      store := fun _ =>
        .ok ⟨[Reliability.Sample.chunk "c1" true], by decide +kernel, by decide +kernel⟩
      admits := fun _ => true
      topical := fun _ => true
      scenario := fun _ => true
      reason := fun chunk => chunk.chunkId ++ ":TOPIC_ONLY"
      queryText := fun symptom => String.ofList symptom.symptomType }
  wording _ := none
  approvedModelCodes := ["WPUJAC104DWH".toList]
  service := some .guarded

def modelCode : List Char := "WPUJAC104DWH".toList

/-- A noise, with the condition under which it occurs and the time since when. -/
def noise (condition time : Option Text) (actions : List Text) : Analysed where
  symptom := ⟨"소음 이상".toList, time, none, condition, none, [], actions⟩
  safety := Reliability.Sample.general

def request (previous : List PreviousAnswer) : Request := ⟨1, uuid, "ai-request-1", 1, previous⟩

/-- A customer who does not know when the noise occurs. -/
def round : Round := ⟨router, modelCode, request [], noise none none [], fun _ => "모름".toList⟩

end Sample

theorem rounds_end_noise :
    ((Sample.round.waiting []).map fun shown => shown.followupQuestions.map (·.targetField)) =
      some ["occurrence_time", "occurrence_condition", "actions_taken"] ∧
    (pendingResults [] [Sample.round, Sample.round]).length ≤ 5 := by
  have answering : ∀ round ∈ [Sample.round, Sample.round], Answering round := by
    intro round member
    have same : round = Sample.round := by simpa using member
    subst same
    have spoken : stripChars "모름".toList ≠ [] := by decide +kernel
    exact ⟨by decide, fun _ => spoken⟩
  exact ⟨by decide +kernel, (rounds_end [Sample.round, Sample.round] answering).1⟩

end WaterCare.Ai.Pipeline
