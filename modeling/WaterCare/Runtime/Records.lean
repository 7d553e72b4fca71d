import WaterCare.Runtime.Change

/-!
The rows an analysis leaves behind: guidances with their reviews, assessments and cause
ledgers. A service writes none of them; every other write does one thing to them.
-/

namespace WaterCare.Runtime
open Machine Workflow Store Service Py Analysis

/-! ### What a service leaves alone -/

/-- Two aggregates with the same guidances, reviews, assessments and ledgers. -/
structure SameRecords (a b : Aggregate) : Prop where
  guidances : b.guidances = a.guidances
  reviews : b.reviews = a.reviews
  assessments : b.assessments = a.assessments
  causeLedgers : b.causeLedgers = a.causeLedgers

/-- Two aggregates with the same runs and questions as well. -/
structure SameAnalysis (a b : Aggregate) : Prop extends SameRecords a b where
  runs : b.runs = a.runs
  questions : b.questions = a.questions

section
variable {a b c : Aggregate}

theorem SameRecords.refl (a : Aggregate) : SameRecords a a := ⟨rfl, rfl, rfl, rfl⟩

theorem SameRecords.trans (first : SameRecords a b) (second : SameRecords b c) :
    SameRecords a c where
  guidances := second.guidances.trans first.guidances
  reviews := second.reviews.trans first.reviews
  assessments := second.assessments.trans first.assessments
  causeLedgers := second.causeLedgers.trans first.causeLedgers

namespace SameAnalysis

theorem refl (a : Aggregate) : SameAnalysis a a := ⟨.refl a, rfl, rfl⟩

theorem trans (first : SameAnalysis a b) (second : SameAnalysis b c) : SameAnalysis a c where
  toSameRecords := first.toSameRecords.trans second.toSameRecords
  runs := second.runs.trans first.runs
  questions := second.questions.trans first.questions

theorem putConsultation (a : Aggregate) (row : Stored Consultation) :
    SameAnalysis a (a.putConsultation row) := ⟨⟨rfl, rfl, rfl, rfl⟩, rfl, rfl⟩

theorem putVisit (a : Aggregate) (row : Stored Visit) : SameAnalysis a (a.putVisit row) :=
  ⟨⟨rfl, rfl, rfl, rfl⟩, rfl, rfl⟩

end SameAnalysis
end

section
variable {settings : Settings} {d : Directory} {request : Request} {w : World} {a b m : Aggregate}
  {context : ActionContext} {plan : Plan} {resource r : Resource} {consultant : User}
  {inquiry fresh : Nat} {service : InquiryAction}

theorem request_analysis {stamp : Stamp} {current : Option (Stored Consultation)} {id : Nat}
    {now : Instant} {row : Stored Consultation}
    (h : ConsultationRepository.request d a stamp current id now = .ok (b, row)) :
    SameAnalysis a b := by
  rcases request_ok h with ⟨_, _, _, _, rfl⟩ | ⟨_, _, _, rfl⟩
  · exact .putConsultation a row
  · exact ⟨⟨rfl, rfl, rfl, rfl⟩, rfl, rfl⟩

theorem attached_analysis {c row : Stored Consultation}
    (h : ConsultationHandoffRepository.attachToLatestConsultation a c = .ok (b, row)) :
    SameAnalysis a b := by
  obtain ⟨_, _, _, ⟨rfl, _⟩ | rfl⟩ := attachToLatest_ok h
  · exact ⟨⟨rfl, rfl, rfl, rfl⟩, rfl, rfl⟩
  · exact ⟨⟨rfl, rfl, rfl, rfl⟩, rfl, rfl⟩

theorem attachHandoff_analysis {h : ConsultationHandoff}
    (attached : ConsultationHandoffRepository.attachHandoff a h = .ok b) : SameAnalysis a b := by
  rcases attachHandoff_ok attached with ⟨_, rfl⟩ | ⟨_, _, _, _, _, _, _, rfl⟩
  · exact ⟨⟨rfl, rfl, rfl, rfl⟩, rfl, rfl⟩
  · exact ⟨⟨rfl, rfl, rfl, rfl⟩, rfl, rfl⟩

theorem IsAssigned.analysis {operation : AssignedAction}
    (is : IsAssigned settings d request consultant inquiry operation)
    (h : operation.mutate plan a context fresh = .ok (m, r)) : SameAnalysis a m := by
  cases is with
  | start version =>
      obtain ⟨⟨written, row⟩, started, same⟩ := map_eq_ok.1 h
      cases same
      rcases start_ok started with ⟨_, _, _, _, rfl⟩ | ⟨_, _, rfl⟩
      · exact .putConsultation a row
      · exact ⟨⟨rfl, rfl, rfl, rfl⟩, rfl, rfl⟩
  | saveSummary _ _ | confirmSummary _ | complete _ | requestReview _ _ | markNotNeeded _ _ =>
      obtain ⟨c, row, _, saved, _⟩ := onConsultation_ok h
      obtain ⟨_, rfl⟩ := consultation_update_ok.1 saved
      exact .putConsultation a row
  | createRequest version values sent =>
      dsimp only [VisitService.createRequest, VisitService.executeInquiryAction] at h
      split at h
      · cases h
      · obtain ⟨⟨written, v⟩, created, same⟩ := map_eq_ok.1 h
        cases same
        obtain ⟨_, _, _, _, _, rfl⟩ := visit_create_ok created
        exact ⟨⟨rfl, rfl, rfl, rfl⟩, rfl, rfl⟩
  | updateSchedule visit version values =>
      obtain ⟨v, status, row, _, _, saved, _⟩ := onVisit_ok h
      split at saved
      · cases saved
      · obtain ⟨_, rfl⟩ := visit_update_ok.1 saved
        exact .putVisit a row
  | confirm visit version =>
      obtain ⟨v, status, row, _, _, saved, _⟩ := onVisit_ok h
      unfold VisitRepository.confirm at saved
      split at saved
      · cases saved
      · obtain ⟨_, rfl⟩ := visit_update_ok.1 saved
        exact .putVisit a row

/-- A mutation touches no row of an analysis but the questions that are answered. -/
theorem IsService.mutated_analysis (is : IsService settings d request service)
    (h : service.mutate plan a context fresh = .ok (m, r)) :
    SameRecords a m ∧ m.runs = a.runs ∧
      (service.event ≠ .submitAnswers → m.questions = a.questions) := by
  have unchanged (same : SameAnalysis a m) : SameRecords a m ∧ m.runs = a.runs ∧
      (service.event ≠ .submitAnswers → m.questions = a.questions) :=
    ⟨same.toSameRecords, same.runs, fun _ => same.questions⟩
  cases is with
  | submitSymptom inquiry version =>
      cases h
      exact unchanged (.refl a)
  | submitAnswers inquiry version answers =>
      obtain ⟨written, answered, same⟩ := map_eq_ok.1 h
      cases same
      obtain ⟨questions, rfl⟩ := answerQuestions_ok answered
      exact ⟨⟨rfl, rfl, rfl, rfl⟩, rfl, fun other => absurd rfl other⟩
  | requestConsultation inquiry version =>
      obtain ⟨⟨requested, row⟩, asked, h⟩ := bind_eq_ok.1 h
      obtain ⟨⟨attached, final⟩, linked, h⟩ := bind_eq_ok.1 h
      cases h
      exact unchanged ((request_analysis asked).trans (attached_analysis linked))
  | cancel inquiry version cancellation =>
      obtain ⟨written, cancelled, same⟩ := map_eq_ok.1 h
      cases same
      rcases cancelActive_ok cancelled with ⟨_, rfl⟩ | ⟨c, row, _, _, _, rfl⟩
      · exact unchanged (.refl _)
      · exact unchanged (.putConsultation a row)
  | assigned consultant inquiry is => exact unchanged (is.analysis h)
  | submitFeedback inquiry version comment | reportUnresolved inquiry version reasonCode comment =>
      obtain ⟨handling, _, created⟩ := onHandling_ok h
      obtain ⟨⟨written, f⟩, stored, same⟩ := map_eq_ok.1 created
      cases same
      obtain ⟨_, _, _, _, _, _, rfl⟩ := createFeedback_ok stored
      exact unchanged ⟨⟨rfl, rfl, rfl, rfl⟩, rfl, rfl⟩
  | resumeConsultation inquiry version =>
      obtain ⟨⟨written, row⟩, asked, same⟩ := map_eq_ok.1 h
      cases same
      exact unchanged (request_analysis asked)
  | finalize inquiry version finalNote =>
      cases h
      exact unchanged (.refl a)
  | claim inquiry version =>
      obtain ⟨c, row, _, claimed, _⟩ := onConsultation_ok h
      obtain ⟨_, _, _, rfl⟩ := claim_repository_ok claimed
      exact unchanged (.putConsultation a row)

theorem recordVisitAction_analysis {x y : Aggregate}
    (h : AssignedAction.recordVisitAction request plan a x resource = .ok y) :
    SameAnalysis x y := by
  unfold AssignedAction.recordVisitAction at h
  split at h
  · split at h
    · unfold Aggregate.recordVisitHistory at h
      obtain ⟨row, _, h⟩ := bind_eq_ok.1 h
      split at h
      · cases h
      · cases h
        exact ⟨⟨rfl, rfl, rfl, rfl⟩, rfl, rfl⟩
    · cases h
    · cases h
    · cases h
    · cases h
  · cases h
    exact .refl _

/-- What settles a service concerns the runs a cancellation stops. -/
theorem IsService.settled {x y : Aggregate} (is : IsService settings d request service)
    (h : service.settle x = .ok y) : SameRecords x y ∧ y.questions = x.questions ∧
      (y.runs = x.runs ∨ service.event = .cancelInquiry ∧
        x.runs.mapM (cancelRun request.now) = .ok y.runs) := by
  cases is with
  | submitSymptom _ _ | submitAnswers _ _ _ | requestConsultation _ _ | submitFeedback _ _ _
  | reportUnresolved _ _ _ _ | resumeConsultation _ _ | finalize _ _ _ | claim _ _
  | assigned _ _ _ =>
      cases h
      exact ⟨.refl _, rfl, .inl rfl⟩
  | cancel inquiry version cancellation =>
      obtain ⟨runs, mapped, h⟩ := bind_eq_ok.1 h
      cases h
      exact ⟨⟨rfl, rfl, rfl, rfl⟩, rfl, .inr ⟨rfl, mapped⟩⟩

theorem IsService.finished {x y : Aggregate} (is : IsService settings d request service)
    (h : service.finish plan a x resource = .ok y) : SameAnalysis x y := by
  cases is with
  | submitSymptom _ _ | submitAnswers _ _ _ | requestConsultation _ _ | submitFeedback _ _ _
  | reportUnresolved _ _ _ _ | resumeConsultation _ _ | finalize _ _ _ | claim _ _
  | cancel _ _ _ =>
      cases h
      exact .refl _
  | assigned _ _ _ => exact recordVisitAction_analysis h

/-- A commit of a service leaves the records alone; only a cancellation changes runs, and
only the answers of the customer change questions. -/
theorem Commits.records (commits : Commits service request w a context plan b resource)
    (is : IsService settings d request service) :
    SameRecords a b ∧ (service.event ≠ .submitAnswers → b.questions = a.questions) ∧
      (b.runs = a.runs ∨ service.event = .cancelInquiry ∧
        a.runs.mapM (cancelRun request.now) = .ok b.runs) := by
  obtain ⟨m, inquiry, settled, recorded, hm, _, hs, hr, hf⟩ := write_ok commits.written
  obtain ⟨mutates, runs, questions⟩ := is.mutated_analysis hm
  obtain ⟨settled_records, settled_questions, settled_runs⟩ := is.settled hs
  have historied : SameAnalysis settled recorded := by
    split_ifs at hr
    · obtain ⟨row, _, _, rfl⟩ := recordHistory_ok.1 hr
      exact ⟨⟨rfl, rfl, rfl, rfl⟩, rfl, rfl⟩
    · cases hr
      exact .refl _
  have last := historied.trans (is.finished hf)
  refine ⟨?_, ?_, ?_⟩
  · have mutated : SameRecords a { m with inquiry := inquiry } :=
      mutates.trans ⟨rfl, rfl, rfl, rfl⟩
    exact (mutated.trans settled_records).trans last.toSameRecords
  · intro other
    exact last.questions.trans (settled_questions.trans (questions other))
  · rcases settled_runs with same | ⟨cancels, mapped⟩
    · exact .inl (last.runs.trans (same.trans runs))
    · refine .inr ⟨cancels, ?_⟩
      change m.runs.mapM (cancelRun request.now) = .ok settled.runs at mapped
      rw [last.runs, ← runs]
      exact mapped

end

/-! ### What the other writes do -/

/-- What a write does to the records, with the identifiers it may have used: nothing, or it
takes the decision of a review, or it files the records of an analysis. -/
inductive Filing (limit more : Nat) (a b : Aggregate) : Prop
  | kept (same : SameRecords a b)
  | reviewed {r row : Stored HumanReview} (mem : r ∈ a.reviews)
      (reviews : b.reviews = replaceRow (·.1.id) row a.reviews)
      (same : row.1.id = r.1.id ∧ row.1.guidance = r.1.guidance ∧ row.1.origin = r.1.origin ∧
        row.1.originalRequiresConsultation = r.1.originalRequiresConsultation)
      (decided : row.1.status ≠ .pending)
      (still : ∀ i ∈ a.guidances.map (·.1.id), i ∈ b.guidances.map (·.1.id))
      (guidances : ∀ x ∈ b.guidances, x ∈ a.guidances ∨
        (∃ g ∈ a.guidances, x.1.id = g.1.id ∧ x.1.run = g.1.run ∧
          x.1.requiresConsultation = g.1.requiresConsultation) ∨ limit ≤ x.1.id ∧ x.1.id < more)
      (assessments : b.assessments = a.assessments)
      (causeLedgers : b.causeLedgers = a.causeLedgers)
  | persisted (causeLedgers : ∃ ledgers, b.causeLedgers = a.causeLedgers ++ ledgers)
      (bundle : b.guidances = a.guidances ∧ b.reviews = a.reviews ∨
        ∃ g : Stored Guidance, b.guidances = a.guidances ++ [g] ∧ limit ≤ g.1.id ∧
          g.1.id < more ∧ (b.reviews = a.reviews ∨ ∃ r : Stored HumanReview,
            b.reviews = a.reviews ++ [r] ∧ r.1.guidance = g.1.id ∧ r.1.status = .pending ∧
            r.1.sourceInquiryStateVersion = a.q.stateVersion ∧
            r.1.originalRequiresConsultation = g.1.requiresConsultation ∧
            r.1.origin = (HumanReviewService.consultationOrigin b g.1).1))

section
variable {settings : Settings} {d : Directory} {w : World} {act : Action} {a b : Aggregate}
  {inquiry used id : Nat} {now : Instant} {run : AIRun} {r : SymptomAnalysisResult}

/-- The origin depends on the ledgers and the runs alone. -/
theorem consultationOrigin_congr (ledgers : b.causeLedgers = a.causeLedgers)
    (runs : b.runs = a.runs) (g : Guidance) :
    HumanReviewService.consultationOrigin b g = HumanReviewService.consultationOrigin a g := by
  unfold HumanReviewService.consultationOrigin HumanReviewService.runIsUsable
    HumanReviewService.runOf
  rw [ledgers, runs]

theorem changeRun_records {expected : RunStatus → Bool} {change : AIRun → AIRun}
    (h : InquiryAIService.changeRun a id expected change = .ok b) : SameRecords a b := by
  obtain ⟨_, _, ⟨_, rfl⟩ | ⟨_, _, _, rfl⟩⟩ := changeRun_ok h
  · exact .refl _
  · exact ⟨rfl, rfl, rfl, rfl⟩

theorem applySystemEvent_analysis {plan : Plan} {mark : Inquiry → Inquiry} {correlationId : Uuid}
    {key : String}
    (h : InquiryAIService.applySystemEvent a plan mark correlationId key now = .ok b) :
    SameAnalysis a b := by
  obtain ⟨_, _, _, _, rfl⟩ := applySystemEvent_ok h
  exact ⟨⟨rfl, rfl, rfl, rfl⟩, rfl, rfl⟩

theorem applyFailureEvent_analysis {event : EventCode} {guard : GuardId} {accepted : AIRun → Bool}
    {mark : Inquiry → Inquiry} {outcome : InquiryAIService.EventOutcome}
    (h : InquiryAIService.applyFailureEvent event guard accepted mark d a run now =
      .ok (b, outcome)) : SameAnalysis a b := by
  unfold InquiryAIService.applyFailureEvent at h
  split at h
  · cases h
    exact .refl a
  · split at h
    · cases h
    · split at h
      · cases h
        exact .refl a
      · split at h
        · obtain ⟨written, moved, h⟩ := bind_eq_ok.1 h
          cases h
          exact applySystemEvent_analysis moved
        · cases h

theorem applyEventIfAllowed_analysis {verified : List String}
    {outcome : InquiryAIService.EventOutcome}
    (h : InquiryAIService.applyEventIfAllowed d a r verified id now = .ok (b, outcome)) :
    SameAnalysis a b := by
  unfold InquiryAIService.applyEventIfAllowed at h
  split at h
  · cases h
    exact .refl a
  · split at h
    · cases h
    · split at h
      · cases h
        exact .refl a
      · obtain ⟨moved, hm, h⟩ := bind_eq_ok.1 h
        obtain ⟨requested, hr, h⟩ := bind_eq_ok.1 h
        cases h
        refine (applySystemEvent_analysis hm).trans ?_
        unfold InquiryAIService.requestOnDanger at hr
        split at hr
        · obtain ⟨⟨asked, row⟩, requests, same⟩ := map_eq_ok.1 hr
          cases same
          exact request_analysis requests
        · cases hr
          exact .refl _

theorem persist_filing {v : InquiryAIService.Verification}
    {outcome : InquiryAIService.EventOutcome}
    (h : InquiryAIService.persistValidatedResult d a run r v id now = .ok (b, outcome)) :
    Filing id (id + InquiryAIService.identifiers r v) a b := by
  rcases persist_ok h with ⟨_, rfl, _⟩ |
    ⟨_, assessed, audited, asked, saved, verified, inquiry, h₁, h₂, h₃, h₄, _, h₆⟩
  · exact .kept (.refl _)
  obtain ⟨assessment, rfl⟩ := saveAssessment_ok h₁
  obtain ⟨added, rfl⟩ := saveFollowupQuestions_ok h₃
  have later := applyEventIfAllowed_analysis h₆
  have ledgers : ∃ ledgers, audited.causeLedgers = a.causeLedgers ++ ledgers := by
    rcases saveLedger_ok h₂ with ⟨_, rfl⟩ | ⟨_, _, rfl⟩
    · exact ⟨[], (List.append_nil _).symm⟩
    · exact ⟨_, rfl⟩
  have others : audited.guidances = a.guidances ∧ audited.reviews = a.reviews ∧
      audited.q = a.q := by
    rcases saveLedger_ok h₂ with ⟨_, rfl⟩ | ⟨_, _, rfl⟩
    · exact ⟨rfl, rfl, rfl⟩
    · exact ⟨rfl, rfl, rfl⟩
  obtain ⟨guidances, reviews, sameQ⟩ := others
  have room : id + 2 < id + InquiryAIService.identifiers r v := by
    unfold InquiryAIService.identifiers
    omega
  rcases saveBundle_ok h₄ with ⟨rfl, _⟩ | ⟨_, _, stored⟩
  · refine .persisted ?_ (.inl ⟨?_, ?_⟩)
    · rw [later.causeLedgers]
      exact ledgers
    · rw [later.guidances]
      exact guidances
    · rw [later.reviews]
      exact reviews
  · obtain ⟨g, same, ⟨_, rfl⟩ | ⟨_, created⟩⟩ := saveGuidanceBundle_ok stored
    · have number : g.1.id = id + 2 := by rw [same]; rfl
      refine .persisted ?_ (.inr ⟨g, ?_, ?_, ?_, .inl ?_⟩)
      · rw [later.causeLedgers]
        exact ledgers
      · rw [later.guidances, ← guidances]
      · omega
      · omega
      · rw [later.reviews]
        exact reviews
    · obtain ⟨row, rfl, status, guidance, _, source, original, origin, _⟩ := createPending_ok created
      have number : g.1.id = id + 2 := by rw [same]; rfl
      refine .persisted ?_ (.inr ⟨g, ?_, ?_, ?_, .inr ⟨row, ?_, guidance, status, ?_, original, ?_⟩⟩)
      · rw [later.causeLedgers]
        exact ledgers
      · rw [later.guidances, ← guidances]
      · omega
      · omega
      · rw [later.reviews, ← reviews]
      · rw [source, ← sameQ]
      · rw [origin, consultationOrigin_congr later.causeLedgers later.runs]
        rfl

theorem runById_mem {row : Stored AIRun} (found : InquiryAIService.runById a id = some row) :
    row ∈ a.runs ∧ row.1.id = id :=
  ⟨List.mem_of_find?_eq_some found, of_decide_eq_true (List.find?_some (a := row) found)⟩

/-- A step of a run leaves the records alone, or it persists the result of the run. -/
theorem RunStep.records {step : RunStep} (h : step.perform now w a run = .ok b) :
    SameRecords a b ∨ ∃ v r outcome, step = .persistValidatedResult v ∧ run.result = some r ∧
      InquiryAIService.persistValidatedResult w.directory a run r v w.nextId now =
        .ok (b, outcome) := by
  cases step with
  | markRunning =>
      unfold RunStep.perform InquiryAIService.markRunning at h
      exact .inl (changeRun_records h)
  | markSucceeded result =>
      unfold RunStep.perform at h
      dsimp only at h
      split_ifs at h
      exact .inl (changeRun_records h)
  | markFailed error =>
      unfold RunStep.perform InquiryAIService.markFailed at h
      exact .inl (changeRun_records h)
  | markDomainPersistenceFailed failureCode =>
      unfold RunStep.perform InquiryAIService.markDomainPersistenceFailed at h
      exact .inl (changeRun_records h)
  | persistValidatedResult v =>
      unfold RunStep.perform at h
      dsimp only at h
      cases stored : run.result with
      | none =>
          rw [stored] at h
          cases h
          exact .inl (.refl _)
      | some r =>
          rw [stored] at h
          obtain ⟨⟨written, outcome⟩, persisted, rfl⟩ := map_eq_ok.1 h
          exact .inr ⟨v, r, outcome, rfl, rfl, persisted⟩
  | applyTimeoutEvent | applyUnusableAiFailureEvent =>
      obtain ⟨⟨written, outcome⟩, applied, rfl⟩ := map_eq_ok.1 h
      exact .inl (applyFailureEvent_analysis applied).toSameRecords

theorem guidanceOf_mem {guidance : Nat} {g : Stored Guidance}
    (found : HumanReviewService.guidanceOf a guidance = some g) :
    g ∈ a.guidances ∧ g.1.id = guidance := by
  have named := List.find?_some found
  exact ⟨List.mem_of_find?_eq_some found, of_decide_eq_true named⟩

/-- A decision applies to its guidance, decides its review, and leaves the other records. -/
theorem decision_applied {request : Request} {reviewId : Nat}
    {values : HumanReviewService.DecisionValues} {review row : HumanReview} {g : Stored Guidance}
    {audit : HumanReviewService.ConsultationAudit} {plan : Plan}
    (decides : Decides settings w request reviewId values inquiry a review g audit plan b row) :
    ∃ (applied : Aggregate) (stored : Stored HumanReview) (shown : Option Nat),
      HumanReviewService.applyGuidanceDecision a g.1 values audit.effectiveRequiresConsultation
        request.actor.id (w.nextId + 1) request.now = .ok (applied, shown) ∧
      stored.1 = row ∧ row = HumanReviewService.decided review values audit shown request ∧
      SameAnalysis { a with
        guidances := applied.guidances, reviews := replaceRow (·.1.id) stored a.reviews } b := by
  have h := decides.written
  unfold HumanReviewService.write at h
  obtain ⟨⟨applied, shown⟩, applies, h⟩ := bind_eq_ok.1 h
  obtain ⟨guidances, rfl, _⟩ := applyGuidanceDecision_ok applies
  obtain ⟨stored, saved, h⟩ := bind_eq_ok.1 h
  obtain ⟨requested, asked, h⟩ := bind_eq_ok.1 h
  obtain ⟨moved, _, h⟩ := bind_eq_ok.1 h
  have requests : SameAnalysis { a with
      guidances := guidances, reviews := replaceRow (·.1.id) stored a.reviews } requested := by
    unfold HumanReviewService.requestIfRequired at asked
    split at asked
    · cases asked
      exact .refl _
    · obtain ⟨⟨opened, c⟩, opens, h⟩ := bind_eq_ok.1 asked
      obtain ⟨⟨attached, c'⟩, attaches, h⟩ := bind_eq_ok.1 h
      cases h
      exact (request_analysis opens).trans (attached_analysis attaches)
  have records : row = stored.1 ∧ SameAnalysis requested b := by
    dsimp only at h
    split at h
    · obtain ⟨recorded, hr, h⟩ := bind_eq_ok.1 h
      cases h
      obtain ⟨entry, _, _, rfl⟩ := recordHistory_ok.1 hr
      exact ⟨rfl, ⟨rfl, rfl, rfl, rfl⟩, rfl, rfl⟩
    · cases h
      exact ⟨rfl, ⟨rfl, rfl, rfl, rfl⟩, rfl, rfl⟩
  exact ⟨_, stored, shown, applies, records.1.symm, records.1.trans (save_ok.1 saved),
    requests.trans records.2⟩

/-- What a decision has written: the decided review and the marked guidance. -/
theorem decision_records {request : Request} {reviewId : Nat}
    {values : HumanReviewService.DecisionValues} {review row : HumanReview} {g : Stored Guidance}
    {audit : HumanReviewService.ConsultationAudit} {plan : Plan}
    (decides : Decides settings w request reviewId values inquiry a review g audit plan b row) :
    ∃ (stored : Stored HumanReview) (shown : Option Nat), stored.1 = row ∧
      row = HumanReviewService.decided review values audit shown request ∧
      b.reviews = replaceRow (·.1.id) stored a.reviews ∧
      (∀ i ∈ a.guidances.map (·.1.id), i ∈ b.guidances.map (·.1.id)) ∧
      (∀ x ∈ b.guidances, x ∈ a.guidances ∨ (x.1.id = g.1.id ∧
        x.1.requiresConsultation = g.1.requiresConsultation ∧ x.1.run = g.1.run) ∨
        x.1.id = w.nextId + 1) ∧
      b.assessments = a.assessments ∧ b.causeLedgers = a.causeLedgers ∧ b.runs = a.runs := by
  obtain ⟨applied, stored, shown, applies, same, is, all⟩ := decision_applied decides
  obtain ⟨guidances, rfl, still, marked⟩ := applyGuidanceDecision_ok applies
  refine ⟨stored, shown, same, is, all.reviews, ?_, ?_, all.assessments, all.causeLedgers,
    all.runs⟩
  · rw [all.guidances]
    exact still
  · intro x mem
    rw [all.guidances] at mem
    exact marked x mem

/-- What a write does to the records: nothing, or it is a decision, or it notes the failed
resume of a decided review, or it persists the result of a run. -/
inductive Recording (settings : Settings) (w : World) (act : Action) (inquiry : Nat)
    (a b : Aggregate) (used : Nat) : Prop
  | kept (same : SameRecords a b)
  | decided {request : Request} {reviewId : Nat} {values : HumanReviewService.DecisionValues}
      {review row : HumanReview} {g : Stored Guidance}
      {audit : HumanReviewService.ConsultationAudit} {plan : Plan}
      (is : act = .request request (.decide reviewId values))
      (room : used = HumanReviewService.identifiers g.1 values)
      (decides : Decides settings w request reviewId values inquiry a review g audit plan b row)
  | failed {r row : Stored HumanReview} {now : Instant} (mem : r ∈ a.reviews)
      (decided : r.1.status ≠ .pending)
      (is : row.1 = { r.1 with
        status := .resumeFailed, reviewStateVersion := r.1.reviewStateVersion + 1
        updatedAt := now })
      (same : b = { a with reviews := replaceRow (·.1.id) row a.reviews })
  | persisted {now : Instant} {run : Stored AIRun} {r : SymptomAnalysisResult}
      {v : InquiryAIService.Verification} {outcome : InquiryAIService.EventOutcome}
      (is : act = .internal now (.onRun inquiry run.1.id (.persistValidatedResult v)))
      (room : used = InquiryAIService.identifiers r v)
      (mem : run ∈ a.runs) (result : run.1.result = some r)
      (persisted : InquiryAIService.persistValidatedResult w.directory a run.1 r v w.nextId now =
        .ok (b, outcome))

theorem Writes.recording (writes : Writes settings w act inquiry a b used) :
    Recording settings w act inquiry a b used := by
  cases writes with
  | service serves commits => exact .kept (commits.records serves.isService).1
  | actionResult reports =>
      have h := reports.written
      unfold ActionResultService.write at h
      obtain ⟨row, _, h⟩ := bind_eq_ok.1 h
      obtain ⟨saved, _, h⟩ := bind_eq_ok.1 h
      cases h
      exact .kept ⟨rfl, rfl, rfl, rfl⟩
  | decision decides => exact .decided rfl rfl decides
  | reassignment reassigns =>
      have h := reassigns.written
      unfold SupervisorConsultationService.writeReassignment at h
      obtain ⟨row, _, h⟩ := bind_eq_ok.1 h
      obtain ⟨saved, _, h⟩ := bind_eq_ok.1 h
      cases h
      exact .kept ⟨rfl, rfl, rfl, rfl⟩
  | createRun _ written =>
      obtain ⟨run, rfl, _⟩ := createRun_ok written
      exact .kept ⟨rfl, rfl, rfl, rfl⟩
  | runStep _ located performed =>
      obtain ⟨there, rfl⟩ := runById_mem located
      rcases RunStep.records performed with same | ⟨v, r, outcome, rfl, result, persisted⟩
      · exact .kept same
      · refine .persisted rfl ?_ there result persisted
        unfold RunStep.identifiers
        dsimp only
        rw [result]
        rfl
  | handoff _ row attached =>
      have linked := (attachHandoff_analysis attached).toSameRecords
      rcases row with ⟨rfl, _⟩ | ⟨run, rfl, _⟩
      · exact .kept linked
      · exact .kept ⟨linked.guidances, linked.reviews, linked.assessments, linked.causeLedgers⟩
  | resumeFailed _ found written =>
      obtain ⟨decided, row, is, same⟩ := markResumeFailed_ok written
      exact .failed (List.mem_of_find?_eq_some found) decided is same

theorem Writes.filing (writes : Writes settings w act inquiry a b used) :
    Filing w.nextId (w.nextId + used) a b := by
  cases writes.recording with
  | kept same => exact .kept same
  | @decided _ _ values _ _ g _ _ _ room decides =>
      obtain ⟨stored, shown, rfl, same, reviews, still, guidances, assessments, ledgers, _⟩ :=
        decision_records decides
      obtain ⟨_, ⟨r, mem, rfl⟩, _⟩ := lockVisible_found decides.visible
      obtain ⟨there, _⟩ := guidanceOf_mem decides.guidance
      refine .reviewed mem reviews ?_ ?_ still ?_ assessments ledgers
      · rw [same]
        exact ⟨rfl, rfl, rfl, rfl⟩
      · rw [same]
        unfold HumanReviewService.decided
        cases values.decision <;> exact nofun
      · intro x found
        rcases guidances x found with old | ⟨number, required, run⟩ | new
        · exact .inl old
        · exact .inr (.inl ⟨g, there, number, run, required⟩)
        · refine .inr (.inr ?_)
          rw [room]
          unfold HumanReviewService.identifiers
          omega
  | failed mem _ is same =>
      subst same
      refine .reviewed mem rfl ?_ ?_ (fun _ mem => mem) ?_ rfl rfl
      · rw [is]
        exact ⟨rfl, rfl, rfl, rfl⟩
      · rw [is]
        exact nofun
      · exact fun x mem => .inl mem
  | persisted _ room _ _ persisted =>
      rw [room]
      exact persist_filing persisted

end
end WaterCare.Runtime
