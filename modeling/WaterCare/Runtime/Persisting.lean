import WaterCare.Runtime.Enabled
import WaterCare.Runtime.Records

/-!
How `_persist_validated_result` ends on an inquiry that waits for its analysis: whether
the rows of the result can be stored, whether it moves the inquiry, and what it leaves
the customer to do if it does not.
-/

namespace WaterCare.Runtime
open Machine Workflow Store Service Py Analysis
open WorkflowContract (evaluate_eq_none evaluateGuard_domain)

/-! ### What a result needs -/

/-- An inquiry in its questionnaire: nobody is assigned, and its rows of the consultation
and of a visit are still to come. -/
structure Awaits (a : Aggregate) : Prop where
  status : a.q.status = .questionnaireInProgress
  unassigned : a.q.assignedUser = none
  unconsulted : a.consultations = []
  unvisited : a.visits = []
  recorded : ∀ h ∈ a.history, h.1.stateVersion ≤ a.q.stateVersion

/-- The questions of a result that have not been asked, each once. -/
def newQuestions (asked : List (Option String)) : List FollowUpQuestion → List FollowUpQuestion
  | [] => []
  | question :: rest =>
      if some question.questionId ∈ asked then newQuestions asked rest
      else question :: newQuestions (asked ++ [some question.questionId]) rest

section
variable (d : Directory) (a : Aggregate) (r : SymptomAnalysisResult)
  (v : InquiryAIService.Verification)

/-- The row of the assessment is accepted. -/
def assessmentIsStored : Bool :=
  r.safetyAssessment.safetyReason != "" &&
    (r.safetyAssessment.riskLevel != .danger || r.safetyAssessment.requiresConsultation &&
      (r.usageGuidance.guidanceStatus == .totalStop ||
        r.usageGuidance.guidanceStatus == .partialStop &&
          r.safetyAssessment.matchedSafetyRuleIds == ["SAFETY-HOT-WATER-HEATER-001"])) &&
    (r.safetyAssessment.riskLevel != .caution || r.usageGuidance.guidanceStatus != .normal) &&
    (r.usageGuidance.guidanceStatus != .pendingConsultation ||
      r.safetyAssessment.requiresConsultation)

/-- There is no ledger, or it is verified and its row is accepted. -/
def ledgerIsStored : Bool :=
  match v.ledger with
  | none | some (.ok _) => true
  | some (.error _) => false

def unasked : List FollowUpQuestion := newQuestions (a.questions.map (·.questionCode))
  r.followupQuestions

/-- The rows of the guidance and of its evidence are accepted. -/
def guidanceIsStored : Bool :=
  hasText r.usageGuidance.message && r.usageGuidance.nextActions.all hasText && v.linksStored

/-- The evidence that stays verified. -/
def verifiedEvidence : List String := if guidanceIsStored r v then v.evidenceIds else []

/-- The customer of an inquiry in danger has an account for the consultation. -/
def consultationIsStored : Bool :=
  !r.isDanger || r.isProductValidationFailed ||
    ((d.customerOf a.q).bind fun c => c.user.bind d.user).isSome

/-- Everything the result writes is accepted; without a ledger a guidance may be dropped. -/
def IsStored : Prop :=
  assessmentIsStored r = true ∧ ledgerIsStored v = true ∧
    (∀ question ∈ unasked a r, InquiryAIService.questionIsClean question = true) ∧
    (v.ledger.isSome = true → v.evidenceIds ≠ [] → guidanceIsStored r v = true) ∧
    consultationIsStored d a r = true

/-- The result moves the inquiry out of its questionnaire. -/
def isDecisive (verified : List String) : Bool :=
  r.isProductValidationFailed || r.isDanger ||
    InquiryAIService.requiresNoUsableEvidence r verified ||
    decide (eventCandidate r = some .safeGuidanceReady) && !verified.isEmpty

/-- The result opens a review of its guidance. -/
def opensReview : Bool :=
  !(verifiedEvidence r v).isEmpty && decide (InquiryAIService.initialStatus r = "PENDING")

end

/-! ### The customer's next step -/

/-- `_question`: the customer is shown the question. -/
def questionIsPublic (question : InquiryQA) : Bool :=
  decide (question.answerType = "FREE_TEXT") ||
    decide (question.answerType = "SINGLE_CHOICE") &&
      !(publicQuestionOptions question.questionOptions).isEmpty

/-- An unanswered question the customer is shown. -/
def isOpenQuestion (question : InquiryQA) : Bool :=
  question.customerAnswer.isNone && questionIsPublic question

/-- The inquiry has left the questionnaire, or the customer can answer a question, or
somebody can decide a review of the current version. -/
def IsServed (a : Aggregate) : Prop :=
  a.q.status ≠ .questionnaireInProgress ∨ (∃ question ∈ a.questions, isOpenQuestion question = true) ∨
    ∃ r ∈ a.reviews, r.1.status = .pending ∧ r.1.sourceInquiryStateVersion = a.q.stateVersion

instance (a : Aggregate) : Decidable (IsServed a) :=
  inferInstanceAs (Decidable (_ ∨ _ ∨ _))

/-! ### The rows of a result -/

section
variable {d : Directory} {a b : Aggregate} {run : AIRun} {r : SymptomAnalysisResult}
  {v : InquiryAIService.Verification} {id : Nat} {now : Instant}

theorem bind_of_error {ε α β : Type} {x : Except ε α} {e : ε} (failed : x = .error e)
    {f : α → Except ε β} : x.bind f = .error e := by
  rw [failed]
  rfl

theorem save_refused {α : Type} [Table α] {row : α} {error : String}
    (refused : Table.accepts row = false) : save row error = .error (.raised error) := by
  unfold save
  rw [dif_neg (by rw [refused]; exact Bool.false_ne_true)]

theorem assessment_accepts (a : Aggregate) (run : AIRun) (r : SymptomAnalysisResult) :
    Table.accepts
      ({ assessmentVersion := (a.assessments.map (·.1.assessmentVersion)).foldr max 0 + 1
         riskLevel := r.safetyAssessment.riskLevel
         usageGuidanceStatus := r.usageGuidance.guidanceStatus
         requiresConsultation := r.safetyAssessment.requiresConsultation
         reason := r.safetyAssessment.safetyReason
         ruleResult := r.safetyAssessment
         run := run.id } : SymptomAssessment) = assessmentIsStored r := by
  change (decide (0 < _ + 1) && _ && _ && _ && _) = _
  rw [decide_eq_true (Nat.succ_pos _), Bool.true_and]
  rfl

variable (a run id now)

theorem saveAssessment_stored (stored : assessmentIsStored r = true) :
    ∃ row, InquiryAIService.saveAssessment a run r =
      .ok { a with assessments := a.assessments ++ [row] } := by
  obtain ⟨row, saved⟩ := save_isOk.2 ((assessment_accepts a run r).trans stored)
  exact ⟨row, bind_of_ok saved⟩

theorem saveAssessment_refused (refused : assessmentIsStored r = false) :
    InquiryAIService.saveAssessment a run r = .error (.raised "ValidationError") := by
  have failed : save _ "ValidationError" = .error (.raised "ValidationError") := save_refused
    ((assessment_accepts a run r).trans refused)
  unfold InquiryAIService.saveAssessment
  rw [failed]
  rfl

/-- A clean option is shown, and shown again after it is stored. -/
theorem clean_option {option : String} (short : option.length ≤ 200) :
    String.ofList ((strip option).toList.take 200) = strip option := by
  have bound : (strip option).toList.length ≤ 200 := by
    rw [strip, String.toList_ofList]
    exact (length_stripChars _).trans short
  rw [List.take_of_length_le bound, String.ofList_toList]

theorem publicQuestionOptions_ne_nil {options : List String} (head : ∃ option rest,
    options = option :: rest ∧ hasText option = true) : publicQuestionOptions options ≠ [] := by
  obtain ⟨option, rest, rfl, filled⟩ := head
  unfold publicQuestionOptions
  rw [List.take_succ_cons, List.filter_cons_of_pos filled, List.map_cons]
  exact List.cons_ne_nil _ _

/-- A clean question with options has one the customer can choose. -/
theorem clean_options {question : FollowUpQuestion}
    (clean : InquiryAIService.questionIsClean question = true)
    (offered : question.options.isEmpty = false) :
    (publicQuestionOptions (publicQuestionOptions question.options)).isEmpty = false := by
  unfold InquiryAIService.questionIsClean at clean
  rw [Bool.and_eq_true, List.all_eq_true] at clean
  cases options : question.options with
  | nil => rw [options] at offered; contradiction
  | cons option rest =>
    have shown := clean.2 option (options ▸ List.mem_cons_self)
    rw [Bool.and_eq_true, decide_eq_true_eq] at shown
    have stored : ∃ others, publicQuestionOptions (option :: rest) = strip option :: others := by
      refine ⟨((rest.take 9).filter hasText).map fun option =>
        String.ofList ((strip option).toList.take 200), ?_⟩
      unfold publicQuestionOptions
      rw [List.take_succ_cons, List.filter_cons_of_pos shown.1, List.map_cons,
        clean_option shown.2]
    obtain ⟨others, stored⟩ := stored
    rw [List.isEmpty_eq_false_iff]
    exact publicQuestionOptions_ne_nil ⟨_, others, stored, hasText_strip shown.1⟩

theorem asked_iff (a : Aggregate) (question : FollowUpQuestion) :
    (a.questions.any fun q => decide (q.questionCode = some question.questionId)) = true ↔
      some question.questionId ∈ a.questions.map (·.questionCode) := by
  simp [List.any_eq_true, List.mem_map]

/-- The new questions are stored, and the customer can answer each. -/
theorem saveFollowupQuestions_stored {questions : List FollowUpQuestion}
    (clean : ∀ question ∈ newQuestions (a.questions.map (·.questionCode)) questions,
      InquiryAIService.questionIsClean question = true) :
    ∃ added, InquiryAIService.saveFollowupQuestions a id questions =
        .ok { a with questions := a.questions ++ added } ∧
      (added = [] ↔ newQuestions (a.questions.map (·.questionCode)) questions = []) ∧
      ∀ question ∈ added, isOpenQuestion question = true := by
  induction questions generalizing a id with
  | nil =>
    refine ⟨[], ?_, iff_of_true rfl rfl, fun _ member => absurd member List.not_mem_nil⟩
    rw [List.append_nil]
    rfl
  | cons question rest ih =>
    unfold InquiryAIService.saveFollowupQuestions
    unfold newQuestions at clean ⊢
    by_cases asked : some question.questionId ∈ a.questions.map (·.questionCode)
    · rw [if_pos asked] at clean ⊢
      rw [if_pos ((asked_iff a question).2 asked)]
      exact ih a id clean
    · rw [if_neg asked] at clean ⊢
      have cleaned := clean question List.mem_cons_self
      rw [if_neg (fun found => asked ((asked_iff a question).1 found)), if_pos cleaned]
      let row : InquiryQA :=
        { id := id
          sequenceNo := (a.questions.map (·.sequenceNo)).foldr max 0 + 1
          questionCode := some question.questionId
          questionText := question.questionText
          answerType := if question.options.isEmpty then "FREE_TEXT" else "SINGLE_CHOICE"
          questionOptions := publicQuestionOptions question.options
          targetField := some question.targetField
          customerAnswer := none }
      have codes : (a.questions ++ [row]).map (·.questionCode) =
          a.questions.map (·.questionCode) ++ [some question.questionId] := List.map_append
      have shown : isOpenQuestion row = true := by
        unfold isOpenQuestion questionIsPublic
        cases offered : question.options.isEmpty with
        | true => simp [row, offered]
        | false =>
          have options := clean_options cleaned offered
          simp [row, offered, options]
      obtain ⟨added, stored, _, opens⟩ :=
        ih { a with questions := a.questions ++ [row] } (id + 1) fun next member =>
          clean next (List.mem_cons_of_mem _ (by rw [← codes]; exact member))
      refine ⟨row :: added, ?_, by simp, fun next member => ?_⟩
      · rw [stored, List.append_assoc, List.singleton_append]
      · cases List.mem_cons.1 member with
        | inl same => rw [same]; exact shown
        | inr later => exact opens next later

/-- An unclean new question is refused with everything. -/
theorem saveFollowupQuestions_refused {questions : List FollowUpQuestion}
    (unclean : ∃ question ∈ newQuestions (a.questions.map (·.questionCode)) questions,
      InquiryAIService.questionIsClean question = false) :
    InquiryAIService.saveFollowupQuestions a id questions = .error (.raised "ValidationError") := by
  induction questions generalizing a id with
  | nil =>
    obtain ⟨_, member, _⟩ := unclean
    exact absurd member List.not_mem_nil
  | cons question rest ih =>
    unfold InquiryAIService.saveFollowupQuestions
    unfold newQuestions at unclean
    by_cases asked : some question.questionId ∈ a.questions.map (·.questionCode)
    · rw [if_pos asked] at unclean
      rw [if_pos ((asked_iff a question).2 asked)]
      exact ih a id unclean
    · rw [if_neg asked] at unclean
      rw [if_neg (fun found => asked ((asked_iff a question).1 found))]
      by_cases cleaned : InquiryAIService.questionIsClean question = true
      · rw [if_pos cleaned]
        refine ih _ _ ?_
        obtain ⟨next, member, refused⟩ := unclean
        refine ⟨next, ?_, refused⟩
        cases List.mem_cons.1 member with
        | inl same => rw [same, cleaned] at refused; contradiction
        | inr later =>
          rw [List.map_append]
          exact later
      · rw [if_neg cleaned]

/-- The rows of a guidance are accepted if none of its texts is blank. -/
theorem guidance_accepts : Table.accepts (InquiryAIService.guidanceOfResult a run r v id) =
    (hasText r.usageGuidance.message && r.usageGuidance.nextActions.all hasText) := by
  have status : hasText (InquiryAIService.initialStatus r) = true := by
    unfold InquiryAIService.initialStatus
    split
    · decide
    · split <;> decide
  have titled : hasText "AI 사용 안내 초안" = true := by decide
  have verified : hasText "VERIFIED" = true := by decide
  have action : hasText "NEXT_ACTION" = true := by decide
  let items := r.usageGuidance.nextActions.mapIdx fun i text =>
    (⟨id + 1 + i, i + 1, "NEXT_ACTION", text, none, true⟩ : GuidanceItem)
  let isFilled := fun item : GuidanceItem =>
    decide (0 < item.stepNo) && hasText item.actionType && hasText item.instructionText
  have accepted : items.all isFilled = r.usageGuidance.nextActions.all hasText := by
    rw [Bool.eq_iff_iff, List.all_eq_true, List.all_eq_true]
    constructor
    · intro filled text member
      have ⟨i, bound, at_⟩ := List.getElem_of_mem member
      have checked := filled _ (List.mem_mapIdx.2 ⟨i, bound, rfl⟩)
      dsimp only [isFilled] at checked
      rw [Bool.and_eq_true, at_] at checked
      exact checked.2
    · intro filled item member
      have ⟨i, bound, same⟩ := List.mem_mapIdx.1 member
      dsimp only [isFilled]
      rw [← same, action, Bool.and_true, filled _ (List.getElem_mem bound), Bool.and_true]
      exact decide_eq_true (Nat.succ_pos i)
  have positive : decide (0 < HumanReviewService.lastGuidanceVersion a + 1) = true :=
    decide_eq_true (Nat.succ_pos _)
  change (decide (0 < HumanReviewService.lastGuidanceVersion a + 1) &&
    hasText (InquiryAIService.initialStatus r) && hasText "AI 사용 안내 초안" &&
    hasText r.usageGuidance.message && hasText "VERIFIED" && true && items.all isFilled) = _
  rw [positive, status, titled, verified, accepted]
  simp only [Bool.true_and, Bool.and_true]

/-- A review of a guidance opens if its request has none at this version. -/
theorem createPending_stored (a : Aggregate) (g : Guidance) (id : Nat) (now : Instant) {key : String}
    {version : Nat} (positive : 0 < version)
    (unreviewed : ∀ review ∈ a.reviews, review.1.sourceAiRequestId ≠ key ∨
      review.1.sourceInquiryStateVersion ≠ version) :
    ∃ row, HumanReviewService.createPending a g key version id now =
        .ok { a with reviews := a.reviews ++ [row] } ∧
      row.1.status = .pending ∧ row.1.sourceInquiryStateVersion = version := by
  let review : HumanReview :=
    { id := id, guidance := g.id, publishedGuidance := none, sourceAiRequestId := key
      sourceInquiryStateVersion := version, status := .pending, decision := none
      reviewStateVersion := 1, initialReasonCode := "CAUTION_PRE_SEND_REVIEW"
      decisionReasonCode := none, reviewer := none, decidedAt := none
      decisionIdempotencyKey := none, decisionCorrelationId := none, modifiedGuidance := []
      originalRequiresConsultation := g.requiresConsultation
      effectiveRequiresConsultation := g.requiresConsultation
      origin := (HumanReviewService.consultationOrigin a g).1
      originReason := (HumanReviewService.consultationOrigin a g).2, disposition := none
      changeReason := none, evidenceSnapshot := [], createdAt := now, updatedAt := now }
  have accepted : Table.accepts review = true := by
    change (true && decide (0 < version) && (true && true && true && true && true && true && true &&
      (g.requiresConsultation == g.requiresConsultation) && true && true) && true) = true
    rw [decide_eq_true positive, beq_self_eq_true]
    rfl
  let row : Stored HumanReview := ⟨review, accepted⟩
  have saved : save review "ValidationError" = .ok row := save_ok.2 rfl
  refine ⟨row, ?_, rfl, rfl⟩
  unfold HumanReviewService.createPending
  refine (bind_of_ok saved).trans (if_neg ?_)
  rw [List.any_eq_true]
  intro ⟨found, member, same⟩
  rw [Bool.and_eq_true, decide_eq_true_eq, decide_eq_true_eq] at same
  exact (unreviewed found member).elim (· same.1) (· same.2)

/-- The bundle of a stored guidance: the guidance with its links and, if it is pending, a
review at the version of the inquiry. -/
theorem saveGuidanceBundle_stored (stored : guidanceIsStored r v = true)
    (unreviewed : InquiryAIService.initialStatus r = "PENDING" → ∀ review ∈ a.reviews,
      review.1.sourceAiRequestId ≠ run.idempotencyKey ∨
        review.1.sourceInquiryStateVersion ≠ a.q.stateVersion) :
    ∃ guidance reviews, InquiryAIService.saveGuidanceBundle a run r v id now =
        .ok { a with guidances := a.guidances ++ [guidance], reviews := a.reviews ++ reviews } ∧
      (reviews = [] ↔ InquiryAIService.initialStatus r ≠ "PENDING") ∧
      ∀ review ∈ reviews, review.1.status = .pending ∧
        review.1.sourceInquiryStateVersion = a.q.stateVersion := by
  unfold guidanceIsStored at stored
  rw [Bool.and_eq_true] at stored
  let guidance : Stored Guidance := ⟨InquiryAIService.guidanceOfResult a run r v (id + 1),
    (guidance_accepts a run (id + 1)).trans stored.1⟩
  have saved : save (InquiryAIService.guidanceOfResult a run r v (id + 1)) "ValidationError" =
    .ok guidance := save_ok.2 rfl
  have status : guidance.1.reviewStatus = InquiryAIService.initialStatus r := rfl
  unfold InquiryAIService.saveGuidanceBundle
  rw [bind_of_ok saved, if_neg (by rw [stored.2]; exact Bool.false_ne_true), status]
  by_cases pending : InquiryAIService.initialStatus r = "PENDING"
  · have ⟨row, created, opens, version⟩ := createPending_stored
      { a with guidances := a.guidances ++ [guidance] } guidance.1 id now (version_pos a)
      (unreviewed pending)
    refine ⟨guidance, [row], ?_, iff_of_false (List.cons_ne_nil _ _) (not_not_intro pending),
      fun review member => ?_⟩
    · rw [if_pos pending]
      exact created
    · rw [List.mem_singleton.1 member]
      exact ⟨opens, version⟩
  · refine ⟨guidance, [], ?_, iff_of_true rfl pending, fun _ member =>
      absurd member List.not_mem_nil⟩
    rw [if_neg pending, List.append_nil]
    rfl

/-- Another guidance fails, and not as a refused ledger does. -/
theorem saveGuidanceBundle_refused (refused : guidanceIsStored r v = false) :
    ∃ name, InquiryAIService.saveGuidanceBundle a run r v id now = .error (.raised name) ∧
      name ≠ "_CauseLedgerVerificationError" := by
  unfold guidanceIsStored at refused
  rw [Bool.and_eq_false_iff] at refused
  unfold InquiryAIService.saveGuidanceBundle
  cases texts : hasText r.usageGuidance.message && r.usageGuidance.nextActions.all hasText with
  | false =>
    refine ⟨"ValidationError", ?_, by decide⟩
    have failed : save (InquiryAIService.guidanceOfResult a run r v (id + 1)) "ValidationError" =
      .error (.raised "ValidationError") := save_refused ((guidance_accepts a run (id + 1)).trans texts)
    rw [failed]
    rfl
  | true =>
    rw [texts] at refused
    have links := refused.resolve_left Bool.true_eq_false.mp
    let guidance : Stored Guidance := ⟨InquiryAIService.guidanceOfResult a run r v (id + 1),
      (guidance_accepts a run (id + 1)).trans texts⟩
    have saved : save (InquiryAIService.guidanceOfResult a run r v (id + 1)) "ValidationError" =
      .ok guidance := save_ok.2 rfl
    refine ⟨"ValueError", ?_, by decide⟩
    rw [bind_of_ok saved, if_pos (by rw [links]; rfl)]

/-- The bundle with what stays verified, unless a refused guidance comes with a ledger. -/
theorem saveBundle_stored
    (stored : v.ledger.isSome = true → v.evidenceIds ≠ [] → guidanceIsStored r v = true)
    (unreviewed : ∀ review ∈ a.reviews, review.1.sourceAiRequestId ≠ run.idempotencyKey) :
    ∃ guidances reviews, InquiryAIService.saveBundle a run r v id now =
        .ok ({ a with
          guidances := a.guidances ++ guidances, reviews := a.reviews ++ reviews },
          verifiedEvidence r v) ∧
      (reviews = [] ↔ opensReview r v = false) ∧
      ∀ review ∈ reviews, review.1.status = .pending ∧
        review.1.sourceInquiryStateVersion = a.q.stateVersion := by
  have dropped (empty : verifiedEvidence r v = []) :
      ∃ guidances reviews, (.ok (a, []) : Except Failure (Aggregate × List String)) =
          .ok ({ a with guidances := a.guidances ++ guidances, reviews := a.reviews ++ reviews },
            verifiedEvidence r v) ∧
        (reviews = [] ↔ opensReview r v = false) ∧
        ∀ review ∈ reviews, review.1.status = .pending ∧
          review.1.sourceInquiryStateVersion = a.q.stateVersion := by
    refine ⟨[], [], ?_, iff_of_true rfl ?_, fun _ member => absurd member List.not_mem_nil⟩
    · rw [empty, List.append_nil, List.append_nil]
    · unfold opensReview
      rw [empty]
      rfl
  unfold InquiryAIService.saveBundle
  cases evidence : v.evidenceIds with
  | nil =>
    refine dropped ?_
    unfold verifiedEvidence
    rw [evidence, ite_self]
  | cons first rest =>
    rw [evidence] at stored
    rw [List.isEmpty_cons, if_neg Bool.false_ne_true]
    cases guidance : guidanceIsStored r v with
    | true =>
      have verified : verifiedEvidence r v = first :: rest := by
        unfold verifiedEvidence
        rw [if_pos guidance, evidence]
      have ⟨row, reviews, saved, opens, pending⟩ :=
        saveGuidanceBundle_stored a run id now guidance fun _ review member =>
          .inl (unreviewed review member)
      refine ⟨[row], reviews, ?_, ?_, pending⟩
      · rw [saved, verified]
      · rw [opens]
        unfold opensReview
        rw [verified]
        exact decide_eq_false_iff_not.symm
    | false =>
      have ⟨name, failed, _⟩ := saveGuidanceBundle_refused a run id now guidance
      rw [failed]
      dsimp only
      cases ledger : v.ledger.isSome with
      | true =>
        rw [stored ledger (List.cons_ne_nil _ _)] at guidance
        contradiction
      | false =>
        refine dropped ?_
        unfold verifiedEvidence
        rw [guidance, if_neg Bool.false_ne_true]

theorem saveBundle_refused (ledger : v.ledger.isSome = true) (evidence : v.evidenceIds ≠ [])
    (refused : guidanceIsStored r v = false) :
    ∃ name, InquiryAIService.saveBundle a run r v id now = .error (.raised name) ∧
      name ≠ "_CauseLedgerVerificationError" := by
  have ⟨name, failed, other⟩ := saveGuidanceBundle_refused a run id now refused
  refine ⟨name, ?_, other⟩
  unfold InquiryAIService.saveBundle
  rw [if_neg (by rw [List.isEmpty_iff]; exact evidence), failed]
  exact if_pos ledger

end

/-! ### The event of a result -/

/-- A rule of the system that ends the questionnaire, with the domain guards it asks for. -/
def endsQuestionnaire (passed : List GuardId) (plan : Plan) : Bool :=
  answers .system passed plan.rule && decide (plan.rule.target ≠ .questionnaireInProgress) &&
    decide (plan.rule.target ≠ .cancelled) &&
    !(shipped.events plan.rule.event).requiresIdempotencyKey

section
variable {d : Directory} {a : Aggregate} {event : EventCode} {passed : List GuardId}
  {results : List (GuardId × Bool)}

theorem Awaits.snapshot (awaits : Awaits a) :
    a.snapshot = ⟨some (.questionnaireInProgress, a.q.stateVersion), none⟩ := by
  unfold Aggregate.snapshot Aggregate.latestVisitStatus Aggregate.latestVisit
  rw [awaits.status, awaits.unvisited]
  rfl

/-- An event of the system that passes its guards ends the questionnaire: nothing else
refuses it. -/
theorem systemEvent_applies (mark : Inquiry → Inquiry) (awaits : Awaits a)
    (legal : (shipped.resolve ⟨some (.questionnaireInProgress, 1), none⟩ event).toOption.any
      (endsQuestionnaire passed) = true)
    (domain : ∀ guard ∈ passed, results.lookup guard = some true)
    (marked : ∀ q, Table.accepts (mark q) = Table.accepts q ∧ (mark q).status = q.status)
    (correlationId : Uuid) (key : String) (now : Instant) :
    ∃ plan row stored, shipped.resolve a.snapshot event = .ok plan ∧ plan.rule.event = event ∧
      plan.version = a.q.stateVersion + 1 ∧
      shipped.evaluate plan.rule a.snapshot
        (systemContext correlationId a.q.stateVersion results) = none ∧
      InquiryAIService.applySystemEvent a plan mark correlationId key now =
        .ok { a with inquiry := row, history := a.history ++ [stored] } ∧
      row.1 = mark (applyStateTransition plan a.q) ∧ row.1.status ≠ .questionnaireInProgress := by
  have ⟨plan, resolved, listed, fires, test⟩ := accepted_plan legal a.q.stateVersion
  unfold endsQuestionnaire at test
  rw [Bool.and_eq_true, Bool.and_eq_true, Bool.and_eq_true, decide_eq_true_eq, decide_eq_true_eq,
    Bool.not_eq_true'] at test
  have ⟨⟨⟨answered, target⟩, open_⟩, keyless⟩ := test
  let next : Plan := { plan with version := a.q.stateVersion + 1 }
  have moved : Table.accepts (applyStateTransition next a.q) = true := by
    refine moved_accepts ?_ open_ (Nat.succ_pos _)
    rw [awaits.status]
    exact nofun
  let row : Stored Inquiry := ⟨mark (applyStateTransition next a.q), (marked _).1.trans moved⟩
  have saved : save (mark (applyStateTransition next a.q)) "IntegrityError" = .ok row :=
    save_ok.2 rfl
  have ⟨stored, _, recorded⟩ : ∃ stored : Stored InquiryHistory,
      stored.1 = systemHistory a next correlationId key none now ∧
        Aggregate.recordHistory { a with inquiry := row }
            (systemHistory a next correlationId key none now) =
          .ok { a with inquiry := row, history := a.history ++ [stored] } :=
    recordHistory_next (m := { a with inquiry := row }) awaits.recorded rfl rfl
  refine ⟨next, row, stored, ?_, fires, rfl, ?_, ?_, rfl, ?_⟩
  · rw [awaits.snapshot]
    exact resolved
  · exact system_passes listed answered keyless domain
  · exact (bind_of_ok saved).trans recorded
  · rw [(marked _).2]
    exact target

/-- An event whose rule asks for a guard that does not hold is refused. -/
theorem systemEvent_refused {guard : GuardId} (awaits : Awaits a)
    (guarded : (shipped.resolve ⟨some (.questionnaireInProgress, 1), none⟩ event).toOption.any
      (fun plan => decide (guard ∈ plan.rule.guardRefs)) = true)
    (domain : guard.coreRole = none ∧ guard ≠ .stateVersion ∧ guard ≠ .idempotencyKey)
    (fails : results.lookup guard = some false) (correlationId : Uuid) (version : Nat) :
    ∃ plan failure, shipped.resolve a.snapshot event = .ok plan ∧
      shipped.evaluate plan.rule a.snapshot (systemContext correlationId version results) =
        some failure := by
  have ⟨plan, resolved, _, _, listed⟩ := accepted_plan guarded a.q.stateVersion
  let next : Plan := { plan with version := a.q.stateVersion + 1 }
  cases passed : shipped.evaluate next.rule a.snapshot
      (systemContext correlationId version results) with
  | some failure =>
    refine ⟨next, failure, ?_, passed⟩
    rw [awaits.snapshot]
    exact resolved
  | none =>
    have ⟨_, _, _, _, guards⟩ := (evaluate_eq_none _).1 passed
    have answered := guards guard (of_decide_eq_true listed)
    rw [evaluateGuard_domain domain.1 domain.2.1 domain.2.2] at answered
    change results.lookup guard = some true at answered
    rw [fails] at answered
    contradiction

variable {r : SymptomAnalysisResult} {verified : List String} {id : Nat} {now : Instant}

/-- A mapped result in danger follows its safety rules. -/
theorem mapped_danger (mapped : responseErrors r = []) (danger : r.isDanger = true) :
    dangerAssessmentIsValid r = true := by
  unfold responseErrors at mapped
  rw [List.append_eq_nil_iff, if_pos danger, List.map_eq_nil_iff] at mapped
  unfold dangerAssessmentIsValid
  rw [mapped.2]
  rfl

/-- The event of a decisive result, and the guards it has to pass. -/
def decisiveEvent (r : SymptomAnalysisResult) (verified : List String) : EventCode × List GuardId :=
  if r.isProductValidationFailed then (.productValidationFailed, [.productValidationFailed])
  else if r.isDanger then (.dangerDetected, [.dangerAssessmentValid])
  else if InquiryAIService.requiresNoUsableEvidence r verified then
    (.noEvidence, [.noUsableEvidence])
  else (.safeGuidanceReady, [.safeGuidanceValid, .officialEvidenceAvailable, .noDangerConflict])

theorem decisiveEvent_legal : (shipped.resolve ⟨some (.questionnaireInProgress, 1), none⟩
    (decisiveEvent r verified).1).toOption.any
      (endsQuestionnaire (decisiveEvent r verified).2) = true := by
  unfold decisiveEvent
  split
  · decide
  · split
    · decide
    · split <;> decide

theorem requiresNoUsableEvidence_iff :
    InquiryAIService.requiresNoUsableEvidence r verified = true ↔
      verified = [] ∧ r.followupQuestions = [] ∧ r.isDanger = false ∧
        r.isProductValidationFailed = false := by
  unfold InquiryAIService.requiresNoUsableEvidence
  simp only [Bool.and_eq_true, List.isEmpty_iff, Bool.not_eq_true', and_assoc]

/-- Apart from danger and a refused product, a candidate is a missing evidence or a guidance
that could be shown as it is. -/
theorem candidate_cases (approved : ¬r.isProductValidationFailed = true)
    (harmless : ¬r.isDanger = true) {event : EventCode} (candidate : eventCandidate r = some event) :
    event = .noEvidence ∨ event = .safeGuidanceReady ∧
      r.safetyAssessment.riskLevel = .general ∧ r.safetyAssessment.requiresConsultation = false ∧
      r.usageGuidance.guidanceStatus = .normal ∧ r.followupQuestions = [] := by
  unfold eventCandidate at candidate
  rw [if_neg approved, if_neg harmless] at candidate
  split at candidate
  · cases candidate
    exact .inl rfl
  · split at candidate
    · rename_i safe
      cases candidate
      exact .inr ⟨rfl, safe.2.2.1, safe.2.2.2.1, safe.2.2.2.2.1, safe.2.2.2.2.2.2⟩
    · cases candidate

/-- The event a decisive result asks for. -/
theorem eventOfResult_decisive (decisive : isDecisive r verified = true) :
    InquiryAIService.eventOfResult r verified = .ok (decisiveEvent r verified).1 := by
  unfold InquiryAIService.eventOfResult decisiveEvent
  by_cases refused : r.isProductValidationFailed = true
  · have candidate : eventCandidate r = some .productValidationFailed := if_pos refused
    rw [candidate, if_pos refused]
    exact if_neg fun same => nomatch same.1
  · by_cases danger : r.isDanger = true
    · have candidate : eventCandidate r = some .dangerDetected :=
        (if_neg refused).trans (if_pos danger)
      rw [candidate, if_neg refused, if_pos danger]
      exact if_neg fun same => nomatch same.1
    · rw [if_neg refused, if_neg danger]
      by_cases unusable : InquiryAIService.requiresNoUsableEvidence r verified = true
      · have empty := (requiresNoUsableEvidence_iff.1 unusable).1
        rw [if_pos unusable, if_pos unusable, if_pos unusable]
        cases candidate : eventCandidate r with
        | none => exact if_neg fun review => review.2 empty
        | some event =>
          cases candidate_cases refused danger candidate with
          | inl missing =>
            rw [missing]
            exact if_neg fun same => nomatch same.1
          | inr safe => exact if_pos ⟨safe.1, empty⟩
      · unfold isDecisive at decisive
        simp only [refused, danger, unusable, Bool.false_or, Bool.and_eq_true, decide_eq_true_eq,
          Bool.not_eq_true', List.isEmpty_eq_false_iff] at decisive
        rw [if_neg unusable, if_neg unusable, if_neg unusable, decisive.1]
        exact if_neg fun both => decisive.2 both.2

/-- Its guards hold. -/
theorem decisiveEvent_domain (mapped : responseErrors r = [])
    (decisive : isDecisive r verified = true) :
    ∀ guard ∈ (decisiveEvent r verified).2,
      (InquiryAIService.eventResults r verified (decisiveEvent r verified).1).lookup guard =
        some true := by
  intro guard member
  unfold decisiveEvent at member ⊢
  by_cases refused : r.isProductValidationFailed = true
  · rw [if_pos refused] at member ⊢
    rw [List.mem_singleton.1 member]
    exact congrArg some refused
  · rw [if_neg refused] at member ⊢
    by_cases danger : r.isDanger = true
    · rw [if_pos danger] at member ⊢
      rw [List.mem_singleton.1 member]
      exact congrArg some (mapped_danger mapped danger)
    · rw [if_neg danger] at member ⊢
      by_cases unusable : InquiryAIService.requiresNoUsableEvidence r verified = true
      · rw [if_pos unusable] at member ⊢
        rw [List.mem_singleton.1 member]
        exact congrArg some unusable
      · unfold isDecisive at decisive
        simp only [refused, danger, unusable, Bool.false_or, Bool.and_eq_true, decide_eq_true_eq,
          Bool.not_eq_true', List.isEmpty_eq_false_iff] at decisive
        have safe := (candidate_cases refused danger decisive.1).resolve_left nofun
        rw [if_neg unusable] at member ⊢
        cases List.mem_cons.1 member with
        | inl first =>
          rw [first]
          refine congrArg some ?_
          change (true && decide (r.safetyAssessment.riskLevel = .general) &&
            !r.safetyAssessment.requiresConsultation &&
            decide (r.usageGuidance.guidanceStatus = .normal)) = true
          rw [safe.2.1, safe.2.2.1, safe.2.2.2.1]
          rfl
        | inr later =>
          cases List.mem_cons.1 later with
          | inl second =>
            rw [second]
            refine congrArg some ?_
            rw [List.isEmpty_eq_false_iff.2 decisive.2]
            rfl
          | inr last =>
            rw [List.mem_singleton.1 last]
            refine congrArg some ?_
            rw [(Bool.not_eq_true _).mp danger]
            rfl

theorem decisiveEvent_danger : (decisiveEvent r verified).1 = .dangerDetected ↔
    r.isProductValidationFailed = false ∧ r.isDanger = true := by
  unfold decisiveEvent
  cases r.isProductValidationFailed <;> cases r.isDanger <;>
    cases InquiryAIService.requiresNoUsableEvidence r verified <;> simp

/-- The consultation of a danger is asked for where there is none. -/
theorem danger_requests (d : Directory) (r : SymptomAnalysisResult) (id : Nat) (now : Instant)
    (moved : Aggregate) {plan : Plan} (positive : 0 < plan.version)
    (danger : plan.rule.event = .dangerDetected) (unconsulted : moved.consultations = []) :
    (((d.customerOf moved.q).bind fun c => c.user.bind d.user).isSome = true →
      ∃ b, InquiryAIService.requestOnDanger d moved r plan id now = .ok b ∧
        b.inquiry = moved.inquiry) ∧
    (((d.customerOf moved.q).bind fun c => c.user.bind d.user) = none →
      InquiryAIService.requestOnDanger d moved r plan id now = .error (.raised "AttributeError")) := by
  let stamp : Stamp := ⟨plan.version, "ai-danger-" ++ r.aiRequestId, r.correlationId.1⟩
  have latest : ConsultationRepository.lockLatest moved = none := by
    unfold ConsultationRepository.lockLatest Aggregate.latestConsultation
    rw [unconsulted]
    rfl
  have key : stamp.idempotencyKey ≠ "" := by
    intro empty
    have letters := congrArg String.toList empty
    rw [String.toList_append] at letters
    exact absurd (List.append_eq_nil_iff.1 letters).1 (by decide)
  unfold InquiryAIService.requestOnDanger
  rw [if_pos danger, latest]
  constructor
  · intro account
    have ⟨user, found⟩ := Option.isSome_iff_exists.1 account
    have ⟨customer, owner, account⟩ := Option.bind_eq_some_iff.1 found
    have ⟨row, opened⟩ : ∃ row, ConsultationRepository.request d moved stamp none id now =
        .ok ({ moved with consultations := moved.consultations ++ [row] }, row) :=
      request_opens ⟨positive, key⟩ owner account
    exact ⟨{ moved with consultations := moved.consultations ++ [row] },
      congrArg (Except.map (·.1)) opened, rfl⟩
  · intro missing
    exact congrArg (Except.map (·.1)) (request_fails missing)

variable (d id now)

/-- A decisive result ends the questionnaire, if the consultation of a danger can be asked
for; otherwise it fails. -/
theorem applyEventIfAllowed_decisive (awaits : Awaits a) (version : r.stateVersion = a.q.stateVersion)
    (mapped : responseErrors r = []) (decisive : isDecisive r verified = true) :
    (consultationIsStored d a r = true →
      ∃ b outcome, InquiryAIService.applyEventIfAllowed d a r verified id now = .ok (b, outcome) ∧
        b.q.status ≠ .questionnaireInProgress) ∧
    (consultationIsStored d a r = false →
      InquiryAIService.applyEventIfAllowed d a r verified id now =
        .error (.raised "AttributeError")) := by
  have ⟨plan, row, stored, resolved, fires, next, passed, applied, marked, left⟩ :=
    systemEvent_applies (fun q => q) awaits decisiveEvent_legal
      (decisiveEvent_domain mapped decisive) (fun _ => ⟨rfl, rfl⟩) r.correlationId r.aiRequestId now
  let moved : Aggregate := { a with inquiry := row, history := a.history ++ [stored] }
  have positive : 0 < plan.version := next ▸ Nat.succ_pos _
  have owner : d.customerOf moved.q = d.customerOf a.q := by
    change d.customerOf row.1 = _
    rw [marked]
    rfl
  have applies : InquiryAIService.applyEventIfAllowed d a r verified id now =
      (InquiryAIService.requestOnDanger d moved r plan id now).bind fun requested =>
        .ok (requested, ⟨some (decisiveEvent r verified).1, none⟩) := by
    unfold InquiryAIService.applyEventIfAllowed
    rw [eventOfResult_decisive decisive]
    dsimp only
    rw [resolved]
    dsimp only
    rw [version, passed]
    dsimp only
    rw [bind_of_ok applied]
    rfl
  rw [applies]
  unfold consultationIsStored
  by_cases danger : plan.rule.event = .dangerDetected
  · have asks := decisiveEvent_danger.1 (fires.symm.trans danger)
    have ⟨requested, failed⟩ := danger_requests d r id now moved positive danger
      awaits.unconsulted
    rw [asks.1, asks.2, ← owner]
    constructor
    · intro account
      have ⟨b, requested, same⟩ := requested account
      refine ⟨b, ⟨some (decisiveEvent r verified).1, none⟩, ?_, ?_⟩
      · rw [requested]
        rfl
      · unfold Aggregate.q
        rw [same]
        exact left
    · intro missing
      rw [failed (Option.isNone_iff_eq_none.1 (Option.isSome_eq_false_iff.1 missing))]
      rfl
  · have quiet : InquiryAIService.requestOnDanger d moved r plan id now = .ok moved := if_neg danger
    constructor
    · intro _
      refine ⟨moved, ⟨some (decisiveEvent r verified).1, none⟩, ?_, left⟩
      rw [quiet]
      rfl
    · intro missing
      rw [Bool.or_eq_false_iff, Bool.or_eq_false_iff, Bool.not_eq_false'] at missing
      exact absurd (fires.trans (decisiveEvent_danger.2 ⟨missing.1.2, missing.1.1⟩)) danger

/-- Another result leaves the inquiry as it is. -/
theorem applyEventIfAllowed_indecisive (awaits : Awaits a) (indecisive : isDecisive r verified = false) :
    ∃ outcome, InquiryAIService.applyEventIfAllowed d a r verified id now = .ok (a, outcome) := by
  unfold isDecisive at indecisive
  rw [Bool.or_eq_false_iff, Bool.or_eq_false_iff, Bool.or_eq_false_iff] at indecisive
  have ⟨⟨⟨approved, harmless⟩, usable⟩, unsafe_⟩ := indecisive
  unfold InquiryAIService.applyEventIfAllowed
  have chosen : (∃ reason, InquiryAIService.eventOfResult r verified = .error reason) ∨
      InquiryAIService.eventOfResult r verified = .ok .noEvidence := by
    unfold InquiryAIService.eventOfResult
    rw [usable]
    cases candidate : eventCandidate r with
    | none =>
      dsimp only
      split
      · exact .inl ⟨_, rfl⟩
      · exact .inl ⟨_, rfl⟩
    | some event =>
      cases candidate_cases (Bool.eq_false_iff.1 approved) (Bool.eq_false_iff.1 harmless)
        candidate with
      | inl missing =>
        rw [missing]
        exact .inr (if_neg fun same => nomatch same.1)
      | inr safe =>
        rw [candidate, safe.1, decide_eq_true rfl, Bool.true_and, Bool.not_eq_false',
          List.isEmpty_iff] at unsafe_
        exact .inl ⟨_, if_pos ⟨safe.1, unsafe_⟩⟩
  cases chosen with
  | inl none_ =>
    have ⟨reason, chosen⟩ := none_
    rw [chosen]
    exact ⟨_, rfl⟩
  | inr chosen =>
    rw [chosen]
    have fails : (InquiryAIService.eventResults r verified .noEvidence).lookup .noUsableEvidence =
        some false := by
      rw [← usable]
      rfl
    have domain : GuardId.noUsableEvidence.coreRole = none ∧
        GuardId.noUsableEvidence ≠ .stateVersion ∧
        GuardId.noUsableEvidence ≠ .idempotencyKey := ⟨rfl, nofun, nofun⟩
    have ⟨plan, failure, resolved, refused⟩ := systemEvent_refused awaits
      (by decide : (shipped.resolve ⟨some (.questionnaireInProgress, 1), none⟩
        .noEvidence).toOption.any
          (fun plan => decide (GuardId.noUsableEvidence ∈ plan.rule.guardRefs)) = true)
      domain fails r.correlationId r.stateVersion
    dsimp only
    rw [resolved]
    dsimp only
    rw [refused]
    exact ⟨_, rfl⟩

end

/-! ### The transaction of a result -/

section
variable {d : Directory} {a b : Aggregate} {run : AIRun} {r : SymptomAnalysisResult}
  {v : InquiryAIService.Verification} {id : Nat} {now : Instant}

/-- Rows that are added serve the customer if there are any. -/
theorem isServed_grows {added : List InquiryQA} {reviews : List (Stored HumanReview)}
    (status : b.q.status = a.q.status) (version : b.q.stateVersion = a.q.stateVersion)
    (asks : b.questions = a.questions ++ added) (opens : b.reviews = a.reviews ++ reviews)
    (asked : ∀ question ∈ added, isOpenQuestion question = true)
    (opened : ∀ review ∈ reviews, review.1.status = .pending ∧
      review.1.sourceInquiryStateVersion = a.q.stateVersion) :
    IsServed b ↔ IsServed a ∨ added ≠ [] ∨ reviews ≠ [] := by
  unfold IsServed
  rw [status, version, asks, opens]
  constructor
  · intro served
    rcases served with left | ⟨question, member, shown⟩ | ⟨review, member, pending⟩
    · exact .inl (.inl left)
    · cases List.mem_append.1 member with
      | inl old => exact .inl (.inr (.inl ⟨question, old, shown⟩))
      | inr new => exact .inr (.inl (List.ne_nil_of_mem new))
    · cases List.mem_append.1 member with
      | inl old => exact .inl (.inr (.inr ⟨review, old, pending⟩))
      | inr new => exact .inr (.inr (List.ne_nil_of_mem new))
  · intro served
    rcases served with (left | ⟨question, member, shown⟩ | ⟨review, member, pending⟩) | some_ | some_
    · exact .inl left
    · exact .inr (.inl ⟨question, List.mem_append_left _ member, shown⟩)
    · exact .inr (.inr ⟨review, List.mem_append_left _ member, pending⟩)
    · have ⟨question, member⟩ := List.exists_mem_of_ne_nil _ some_
      exact .inr (.inl ⟨question, List.mem_append_right _ member, asked question member⟩)
    · have ⟨review, member⟩ := List.exists_mem_of_ne_nil _ some_
      exact .inr (.inr ⟨review, List.mem_append_right _ member, opened review member⟩)

theorem projected_accepts (q : Stored Inquiry) (r : SymptomAnalysisResult) (verified : List String) :
    Table.accepts (InquiryAIService.projected q.1 r verified) = true := by
  have accepted := q.2
  unfold InquiryAIService.projected
  dsimp only
  split
  · exact accepted
  · split
    · exact accepted
    · split <;> exact accepted

variable (a run) in
theorem saveLedger_stored (stored : ledgerIsStored v = true) :
    ∃ ledgers, InquiryAIService.saveLedger a run v.ledger =
      .ok { a with causeLedgers := a.causeLedgers ++ ledgers } := by
  unfold ledgerIsStored at stored
  cases ledger : v.ledger with
  | none => exact ⟨[], by rw [List.append_nil]; rfl⟩
  | some entry =>
    cases entry with
    | ok causes => exact ⟨_, rfl⟩
    | error name => rw [ledger] at stored; contradiction

/-- Up to the guidance the transaction is the writing of its rows. -/
theorem persist_rows (version : a.q.stateVersion = r.stateVersion) {row : Stored SymptomAssessment}
    {ledgers : List ConsultationCauseLedger}
    (assessed : InquiryAIService.saveAssessment a run r =
      .ok { a with assessments := a.assessments ++ [row] })
    (audited : InquiryAIService.saveLedger { a with assessments := a.assessments ++ [row] } run
      v.ledger = .ok { a with
        assessments := a.assessments ++ [row], causeLedgers := a.causeLedgers ++ ledgers }) :
    InquiryAIService.persistValidatedResult d a run r v id now =
      (InquiryAIService.saveFollowupQuestions
        { a with assessments := a.assessments ++ [row], causeLedgers := a.causeLedgers ++ ledgers }
        (id + 3 + r.usageGuidance.nextActions.length + v.evidenceIds.length)
        r.followupQuestions).bind fun asked =>
      (InquiryAIService.saveBundle asked run r v (id + 1) now).bind fun saved =>
      InquiryAIService.applyEventIfAllowed d
        { saved.1 with
          inquiry := ⟨_, projected_accepts saved.1.inquiry r saved.2⟩ } r saved.2 id now := by
  unfold InquiryAIService.persistValidatedResult
  rw [if_neg (not_not_intro version), bind_of_ok assessed, bind_of_ok audited]
  refine congrArg (Except.bind _) (funext fun asked => ?_)
  refine congrArg (Except.bind _) (funext fun saved => ?_)
  exact bind_of_ok (save_ok.2 rfl)

theorem consultationIsStored_congr {m : Aggregate}
    (subscription : m.q.subscription = a.q.subscription) :
    consultationIsStored d m r = consultationIsStored d a r := by
  unfold consultationIsStored Directory.customerOf
  rw [subscription]

variable (d id now)

/-- With rows that are all accepted, what remains is the event of the result. -/
theorem persist_event (awaits : Awaits a) (version : a.q.stateVersion = r.stateVersion)
    (unreviewed : ∀ review ∈ a.reviews, review.1.sourceAiRequestId ≠ run.idempotencyKey)
    (assessment : assessmentIsStored r = true) (ledger : ledgerIsStored v = true)
    (clean : ∀ question ∈ unasked a r, InquiryAIService.questionIsClean question = true)
    (guidance : v.ledger.isSome = true → v.evidenceIds ≠ [] → guidanceIsStored r v = true) :
    ∃ m, InquiryAIService.persistValidatedResult d a run r v id now =
        InquiryAIService.applyEventIfAllowed d m r (verifiedEvidence r v) id now ∧
      Awaits m ∧ m.q.stateVersion = a.q.stateVersion ∧ m.q.subscription = a.q.subscription ∧
      (IsServed m ↔ IsServed a ∨ unasked a r ≠ [] ∨ opensReview r v = true) := by
  have ⟨row, assessed⟩ := saveAssessment_stored a run assessment
  let a₁ : Aggregate := { a with assessments := a.assessments ++ [row] }
  have ⟨ledgers, audited⟩ := saveLedger_stored a₁ run ledger
  let a₂ : Aggregate := { a₁ with causeLedgers := a.causeLedgers ++ ledgers }
  have ⟨added, asked, none_added, opens⟩ := saveFollowupQuestions_stored a₂
    (id + 3 + r.usageGuidance.nextActions.length + v.evidenceIds.length) clean
  let a₃ : Aggregate := { a₂ with questions := a.questions ++ added }
  have ⟨guidances, reviews, saved, none_opened, pending⟩ :=
    saveBundle_stored a₃ run (id + 1) now guidance unreviewed
  let verified := verifiedEvidence r v
  let m : Aggregate :=
    { a₃ with
      guidances := a.guidances ++ guidances
      reviews := a.reviews ++ reviews
      inquiry := ⟨_, projected_accepts a.inquiry r verified⟩ }
  have ⟨_, subscription, _, assigned, _, status, same⟩ := projected_same a.q r verified
  have persists : InquiryAIService.persistValidatedResult d a run r v id now =
      InquiryAIService.applyEventIfAllowed d m r verified id now := by
    rw [persist_rows version assessed audited, asked]
    exact bind_of_ok saved
  have waits : Awaits m :=
    ⟨status.trans awaits.status, assigned.trans awaits.unassigned, awaits.unconsulted,
      awaits.unvisited, fun h member => (awaits.recorded h member).trans (le_of_eq same.symm)⟩
  have grows : IsServed m ↔ IsServed a ∨ added ≠ [] ∨ reviews ≠ [] :=
    isServed_grows status same rfl rfl opens pending
  rw [Ne, Ne, none_added, none_opened, Bool.not_eq_false] at grows
  exact ⟨m, persists, waits, same, subscription, grows⟩

/-- What serves the customer after a result whose rows are all accepted. -/
def GivesStep (a : Aggregate) (r : SymptomAnalysisResult) (v : InquiryAIService.Verification) :
    Prop :=
  isDecisive r (verifiedEvidence r v) = true ∨ unasked a r ≠ [] ∨ opensReview r v = true

/-- A result whose rows are all accepted is persisted. -/
theorem persist_stored (awaits : Awaits a) (version : a.q.stateVersion = r.stateVersion)
    (mapped : responseErrors r = [])
    (unreviewed : ∀ review ∈ a.reviews, review.1.sourceAiRequestId ≠ run.idempotencyKey)
    (stored : IsStored d a r v) :
    ∃ b outcome, InquiryAIService.persistValidatedResult d a run r v id now = .ok (b, outcome) ∧
      (IsServed b ↔ IsServed a ∨ GivesStep a r v) := by
  have ⟨assessment, ledger, clean, guidance, asks⟩ := stored
  have ⟨m, persists, waits, same, subscription, grows⟩ := persist_event d id now
    awaits version unreviewed assessment ledger clean guidance
  rw [persists]
  cases decisive : isDecisive r (verifiedEvidence r v) with
  | true =>
    have ⟨b, outcome, applied, left⟩ := (applyEventIfAllowed_decisive d id now waits
      (version.symm.trans same.symm) mapped decisive).1
        ((consultationIsStored_congr subscription).trans asks)
    exact ⟨b, outcome, applied, iff_of_true (.inl left) (.inr (.inl decisive))⟩
  | false =>
    have ⟨outcome, applied⟩ := applyEventIfAllowed_indecisive d id now waits decisive
    refine ⟨m, outcome, applied, ?_⟩
    rw [grows]
    unfold GivesStep
    rw [decisive]
    exact or_congr_right (or_iff_right Bool.false_ne_true).symm

/-- One with a refused row is not persisted. -/
theorem persist_refused (awaits : Awaits a) (version : a.q.stateVersion = r.stateVersion)
    (mapped : responseErrors r = [])
    (unreviewed : ∀ review ∈ a.reviews, review.1.sourceAiRequestId ≠ run.idempotencyKey)
    (refused : ¬IsStored d a r v) :
    ∃ name, InquiryAIService.persistValidatedResult d a run r v id now = .error (.raised name) ∧
      (name = "_CauseLedgerVerificationError" ↔ assessmentIsStored r = true ∧
        v.ledger = some (.error "_CauseLedgerVerificationError")) := by
  cases assessment : assessmentIsStored r with
  | false =>
    refine ⟨"ValidationError", ?_, iff_of_false (by decide) fun both => nomatch both.1⟩
    unfold InquiryAIService.persistValidatedResult
    rw [if_neg (not_not_intro version), saveAssessment_refused a run assessment]
    rfl
  | true =>
    have ⟨row, assessed⟩ := saveAssessment_stored a run assessment
    cases ledger : ledgerIsStored v with
    | false =>
      unfold ledgerIsStored at ledger
      split at ledger
      · contradiction
      · contradiction
      · rename_i name failed
        refine ⟨name, ?_, ?_⟩
        · unfold InquiryAIService.persistValidatedResult
          rw [if_neg (not_not_intro version), bind_of_ok assessed, failed]
          rfl
        · rw [failed]
          simp
    | true =>
      have verified : ¬(true = true ∧
          v.ledger = some (.error "_CauseLedgerVerificationError")) := by
        intro both
        unfold ledgerIsStored at ledger
        rw [both.2] at ledger
        contradiction
      have ⟨ledgers, audited⟩ :=
        saveLedger_stored { a with assessments := a.assessments ++ [row] } run ledger
      by_cases clean : ∀ question ∈ unasked a r, InquiryAIService.questionIsClean question = true
      · by_cases guidance : v.ledger.isSome = true → v.evidenceIds ≠ [] →
          guidanceIsStored r v = true
        · have ⟨m, persists, waits, same, subscription, _⟩ := persist_event d id now
            awaits version unreviewed assessment ledger clean guidance
          have missing : consultationIsStored d a r = false := by
            rw [← Bool.not_eq_true]
            exact fun asks => refused ⟨assessment, ledger, clean, guidance, asks⟩
          have decisive : isDecisive r (verifiedEvidence r v) = true := by
            unfold consultationIsStored at missing
            unfold isDecisive
            rw [Bool.or_eq_false_iff, Bool.or_eq_false_iff, Bool.not_eq_false'] at missing
            rw [missing.1.1, Bool.or_true]
            rfl
          refine ⟨"AttributeError", ?_, iff_of_false (by decide) verified⟩
          rw [persists]
          exact (applyEventIfAllowed_decisive d id now waits (version.symm.trans same.symm) mapped
            decisive).2 ((consultationIsStored_congr subscription).trans missing)
        · have ⟨added, asked, _, _⟩ := saveFollowupQuestions_stored
            { a with
              assessments := a.assessments ++ [row], causeLedgers := a.causeLedgers ++ ledgers }
            (id + 3 + r.usageGuidance.nextActions.length + v.evidenceIds.length) clean
          simp only [Classical.not_imp, Bool.not_eq_true] at guidance
          have ⟨name, failed, other⟩ := saveBundle_refused
            { a with
              assessments := a.assessments ++ [row], causeLedgers := a.causeLedgers ++ ledgers
              questions := a.questions ++ added } run (id + 1) now guidance.1 guidance.2.1
            guidance.2.2
          refine ⟨name, ?_, iff_of_false other verified⟩
          rw [persist_rows version assessed audited, asked]
          exact bind_of_error failed
      · refine ⟨"ValidationError", ?_, iff_of_false (by decide) verified⟩
        simp only [not_forall, Bool.not_eq_true, exists_prop] at clean
        have failed := saveFollowupQuestions_refused
          { a with
            assessments := a.assessments ++ [row], causeLedgers := a.causeLedgers ++ ledgers }
          (id + 3 + r.usageGuidance.nextActions.length + v.evidenceIds.length) clean
        rw [persist_rows version assessed audited, failed]
        rfl

end
end WaterCare.Runtime
