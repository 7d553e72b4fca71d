import WaterCare.Runtime.Services

/-!
The four kinds of change every write amounts to: the inquiry moves along a rule,
an action result raises its version, the supervisor reassigns it, or only rows
around it are written.
-/

namespace WaterCare.Runtime
open Machine Workflow Store Service Py Analysis
open WorkflowContract (evaluate_eq_none evaluateGuard_domain evaluateGuard_stateVersion)

/-- The inquiry, its history, consultations, visits and feedback are as they were, up to
what an analysis projects on the inquiry. -/
structure SameCase (a b : Aggregate) : Prop where
  id : b.q.id = a.q.id
  subscription : b.q.subscription = a.q.subscription
  initiatedBy : b.q.initiatedBy = a.q.initiatedBy
  assignedUser : b.q.assignedUser = a.q.assignedUser
  assignedRole : b.q.assignedRole = a.q.assignedRole
  status : b.q.status = a.q.status
  version : b.q.stateVersion = a.q.stateVersion
  history : b.history = a.history
  consultations : b.consultations = a.consultations
  visits : b.visits = a.visits
  followups : b.followups = a.followups

namespace SameCase
variable {a b c : Aggregate}

theorem refl (a : Aggregate) : SameCase a a := ⟨rfl, rfl, rfl, rfl, rfl, rfl, rfl, rfl, rfl, rfl, rfl⟩

theorem trans (first : SameCase a b) (second : SameCase b c) : SameCase a c where
  id := second.id.trans first.id
  subscription := second.subscription.trans first.subscription
  initiatedBy := second.initiatedBy.trans first.initiatedBy
  assignedUser := second.assignedUser.trans first.assignedUser
  assignedRole := second.assignedRole.trans first.assignedRole
  status := second.status.trans first.status
  version := second.version.trans first.version
  history := second.history.trans first.history
  consultations := second.consultations.trans first.consultations
  visits := second.visits.trans first.visits
  followups := second.followups.trans first.followups

theorem of_tables (inquiry : b.inquiry = a.inquiry) (history : b.history = a.history)
    (consultations : b.consultations = a.consultations) (visits : b.visits = a.visits)
    (followups : b.followups = a.followups) : SameCase a b := by
  have same : b.q = a.q := congrArg Subtype.val inquiry
  refine ⟨?_, ?_, ?_, ?_, ?_, ?_, ?_, history, consultations, visits, followups⟩
  all_goals rw [same]

theorem snapshot (same : SameCase a b) : b.snapshot = a.snapshot := by
  unfold Aggregate.snapshot Aggregate.latestVisitStatus Aggregate.latestVisit
  rw [same.status, same.version, same.visits]

theorem transition {limit : Nat} {now : Instant} {event : EventCode} {plan : Plan}
    (same : SameCase a b) (move : Transition limit now event plan b c) :
    Transition limit now event plan a c where
  resolved := same.snapshot ▸ move.resolved
  status := move.status
  version := move.version
  identity := by
    rw [← same.id, ← same.subscription, ← same.initiatedBy]
    exact move.identity
  assignment := by
    rw [← same.assignedUser, ← same.assignedRole]
    exact move.assignment
  history := by
    rw [← same.history, ← same.status]
    exact move.history
  consultations := same.consultations ▸ move.consultations
  visits := same.visits ▸ move.visits
  followups := same.followups ▸ move.followups

end SameCase

/-- The kinds of change, with the causes a move may have. The identifiers from the limit
on are free before it, and a consultation is added only by a change that uses one. -/
inductive Change (causes : EventCode → Plan → Prop) (limit used : Nat) (now : Instant)
    (a b : Aggregate) : Prop
  | moved (event : EventCode) (plan : Plan) (cause : causes event plan)
      (move : Transition limit now event plan a b)
      (room : 1 ≤ used ∨ keepsConsultations event = true)
  | reported (status : a.q.status = .aiGuidance)
      (inquiry : b.q = ActionResultService.advance a.q)
      (history : b.history = a.history) (consultations : b.consultations = a.consultations)
      (visits : b.visits = a.visits) (followups : b.followups = a.followups)
  | reassigned (target : Nat)
      (inquiry : b.q = { a.q with assignedUser := some target, assignedRole := .consultant })
      (unfinished : a.q.status ≠ .resolved ∧ a.q.status ≠ .cancelled)
      (history : b.history = a.history)
      (consultations : ∃ older c row, a.consultations = older ++ [c] ∧
        b.consultations = older ++ [row] ∧
        row.1 = SupervisorConsultationService.reassigned c.1 target ∧
        c.1.status ≠ .completed ∧ c.1.status ≠ .cancelled)
      (visits : b.visits = a.visits) (followups : b.followups = a.followups)
  | still (same : SameCase a b)
  | drafted (inquiry : b.inquiry = a.inquiry) (history : b.history = a.history)
      (visits : b.visits = a.visits) (followups : b.followups = a.followups)
      (consultations : ∃ older c row draft, a.consultations = older ++ [c] ∧
        b.consultations = older ++ [row] ∧ c.1.status.isActive = true ∧
        row.1 = { c.1 with aiDraftSummary := draft })

/-- The events of an analysis. -/
def isAnalysis : EventCode → Bool
  | .productValidationFailed | .dangerDetected | .noEvidence | .safeGuidanceReady
  | .aiProcessingTimeout => true
  | _ => false

/-- What moves an inquiry by an event: a service, the decision of a review or an analysis. -/
inductive Cause (settings : Settings) (w : World) (act : Action) (inquiry : Nat)
    (a b : Aggregate) (event : EventCode) (plan : Plan) : Prop
  | service {request : Request} {service : InquiryAction} {context : ActionContext}
      {resource : Resource} (serves : Serves settings w act request service)
      (commits : Commits service request w a context plan b resource)
      (fires : service.event = event) (on : service.inquiry = inquiry)
  | decision {request : Request} {reviewId : Nat} {values : HumanReviewService.DecisionValues}
      {review row : HumanReview} {g : Stored Guidance} {audit : HumanReviewService.ConsultationAudit}
      (decides : Decides settings w request reviewId values inquiry a review g audit plan b row)
      (is : act = .request request (.decide reviewId values))
      (fires : HumanReviewService.eventCode values.decision audit.effectiveRequiresConsultation =
        event)
  | analysis {now : Instant} {run : Nat} {step : RunStep}
      (is : act = .internal now (.onRun inquiry run step)) (fires : isAnalysis event = true)

/-- The events of a review decision. -/
def isDecision : EventCode → Bool
  | .humanReviewGuidanceApproved | .humanReviewConsultationRequired | .humanReviewRejected => true
  | _ => false

/-- An event of neither an analysis nor a review comes from a service. -/
theorem Cause.served {settings : Settings} {w : World} {act : Action} {inquiry : Nat}
    {a b : Aggregate} {event : EventCode} {plan : Plan}
    (cause : Cause settings w act inquiry a b event plan) (notAnalysis : isAnalysis event = false)
    (notDecision : isDecision event = false) :
    ∃ request service context resource, Serves settings w act request service ∧
      Commits service request w a context plan b resource ∧ service.event = event ∧
      service.inquiry = inquiry := by
  cases cause with
  | service serves commits fires on => exact ⟨_, _, _, _, serves, commits, fires, on⟩
  | decision _ _ fires =>
      rw [← fires] at notDecision
      unfold HumanReviewService.eventCode at notDecision
      split_ifs at notDecision <;> cases notDecision
  | analysis _ fires =>
      rw [fires] at notAnalysis
      cases notAnalysis

/-- What a change does to the consultations, under an event that has its cause or under none. -/
theorem Change.consulted {causes : EventCode → Plan → Prop} {limit used : Nat} {now : Instant}
    {a b : Aggregate} (change : Change causes limit used now a b) :
    ∃ event, Consulted b.q.assignedUser now limit event a.consultations b.consultations ∧
      ∀ e, event = some e → ∃ plan, causes e plan ∧ Transition limit now e plan a b := by
  have unmoved {event : Option EventCode} (h : event = none) : ∀ e, event = some e →
      ∃ plan, causes e plan ∧ Transition limit now e plan a b := by
    intro e same
    rw [h] at same
    cases same
  cases change with
  | moved event plan cause move _ =>
      refine ⟨some event, move.consultations, ?_⟩
      intro e same
      cases same
      exact ⟨plan, cause, move⟩
  | reported _ _ _ consultations =>
      rw [consultations]
      exact ⟨none, .kept nofun, unmoved rfl⟩
  | reassigned target inquiry _ _ consultations =>
      obtain ⟨older, c, row, split, split', same, completed, cancelled⟩ := consultations
      rw [split, split', inquiry]
      refine ⟨none, .edited older ?_, unmoved rfl⟩
      rw [same]
      exact .reassigned target rfl completed cancelled
  | still same =>
      rw [same.consultations]
      exact ⟨none, .kept nofun, unmoved rfl⟩
  | drafted _ _ _ _ consultations =>
      obtain ⟨older, c, row, draft, split, split', active, same⟩ := consultations
      rw [split, split']
      refine ⟨none, .edited older ?_, unmoved rfl⟩
      rw [same]
      exact .drafted draft active

/-! ### The transitions of the system -/

section
variable {d : Directory} {request : Request} {a b m : Aggregate} {plan : Plan} {now : Instant}
  {limit used : Nat}

/-- A transition the service records itself, with a consultation it may ask for. -/
theorem transition_of_system {event : EventCode} (x : Aggregate) (mark : Inquiry → Inquiry)
    {inquiry : Stored Inquiry} {row : Stored InquiryHistory}
    (resolved : shipped.resolve a.snapshot event = .ok plan)
    (marked : ∀ q, (mark q).id = q.id ∧ (mark q).subscription = q.subscription ∧
      (mark q).initiatedBy = q.initiatedBy ∧ (mark q).assignedUser = q.assignedUser ∧
      (mark q).assignedRole = q.assignedRole ∧ (mark q).status = q.status ∧
      (mark q).stateVersion = q.stateVersion)
    (notFeedback : event ≠ .submitResolutionFeedback)
    (q : b.inquiry = inquiry) (saved : inquiry.1 = mark (applyStateTransition plan a.q))
    (history : b.history = a.history ++ [row])
    (recorded : row.1.event = event ∧ row.1.fromState = some a.q.status ∧
      row.1.toState = plan.rule.target ∧ row.1.stateVersion = plan.version)
    (rows : Mutated limit a.q.assignedUser now event a x)
    (consultations : b.consultations = x.consultations) (visits : b.visits = x.visits)
    (followups : b.followups = x.followups) : Transition limit now event plan a b := by
  have written : b.q = mark (applyStateTransition plan a.q) := (congrArg Subtype.val q).trans saved
  obtain ⟨id, subscription, initiatedBy, assignedUser, assignedRole, status, version⟩ :=
    marked (applyStateTransition plan a.q)
  refine ⟨resolved, ?_, ?_, ?_, .inr ?_, .inr ⟨notFeedback, row, history, recorded⟩, ?_, ?_, ?_⟩
  · rw [written, status]
    rfl
  · rw [written, version]
    rfl
  · rw [written, id, subscription, initiatedBy]
    exact ⟨rfl, rfl, rfl⟩
  · rw [written, assignedUser, assignedRole]
    exact ⟨rfl, rfl⟩
  · rw [written, assignedUser, consultations]
    exact rows.consultations
  · rw [visits]
    exact rows.visits
  · rw [followups]
    exact rows.followups

/-! ### A review decision -/

/-- A decision marks the guidance it is about, and may add a copy of it. -/
theorem applyGuidanceDecision_ok {g : Guidance} {values : HumanReviewService.DecisionValues}
    {effective : Bool} {actor id : Nat} {shown : Option Nat}
    (h : HumanReviewService.applyGuidanceDecision a g values effective actor id now =
      .ok (b, shown)) :
    ∃ guidances, b = { a with guidances := guidances } ∧
      (∀ i ∈ a.guidances.map (·.1.id), i ∈ guidances.map (·.1.id)) ∧
      ∀ x ∈ guidances, x ∈ a.guidances ∨ (x.1.id = g.id ∧
        x.1.requiresConsultation = g.requiresConsultation ∧ x.1.run = g.run) ∨ x.1.id = id := by
  have marked {status : String} {row x : Stored Guidance}
      (saved : save (HumanReviewService.reviewed g status actor now) "ValidationError" = .ok row)
      (mem : x ∈ replaceRow (·.1.id) row a.guidances) : x ∈ a.guidances ∨
      (x.1.id = g.id ∧ x.1.requiresConsultation = g.requiresConsultation ∧ x.1.run = g.run) ∨
      x.1.id = id := by
    rcases mem_replaceRow mem with old | ⟨same, _⟩
    · exact .inl old
    · rw [same, save_ok.1 saved]
      exact .inr (.inl ⟨rfl, rfl, rfl⟩)
  unfold HumanReviewService.applyGuidanceDecision at h
  split at h
  · obtain ⟨row, saved, h⟩ := bind_eq_ok.1 h
    cases h
    exact ⟨_, rfl, fun i mem => by rwa [map_replaceRow], fun x mem => marked saved mem⟩
  · obtain ⟨row, saved, h⟩ := bind_eq_ok.1 h
    dsimp only at h
    split at h
    · cases h
      exact ⟨_, rfl, fun i mem => by rwa [map_replaceRow], fun x mem => marked saved mem⟩
    · split at h
      · cases h
      · obtain ⟨copy, copied, h⟩ := bind_eq_ok.1 h
        cases h
        refine ⟨_, rfl, ?_, ?_⟩
        · intro i mem
          rw [List.map_append, map_replaceRow]
          exact List.mem_append_left _ mem
        intro x mem
        rcases List.mem_append.1 mem with old | new
        · exact marked saved old
        · rw [List.mem_singleton.1 new, save_ok.1 copied]
          exact .inr (.inr rfl)

theorem reviewTransition_ok {event : EventCode} {correlationId : Uuid}
    {results : List (GuardId × Bool)}
    (h : HumanReviewService.reviewTransition a event correlationId results = .ok plan) :
    shipped.resolve a.snapshot event = .ok plan ∧
      shipped.evaluate plan.rule a.snapshot
        (systemContext correlationId a.q.stateVersion results) = none := by
  unfold HumanReviewService.reviewTransition at h
  split at h
  · cases h
  · rename_i plan' resolved
    split at h
    · rename_i passed
      cases h
      exact ⟨resolved, passed⟩
    · cases h

/-- The events of a decision, and whether each asks for a consultation. -/
theorem eventCode_cases (decision : ReviewDecision) (effective : Bool) :
    HumanReviewService.eventCode decision effective = .humanReviewGuidanceApproved ∨
      asksConsultation (HumanReviewService.eventCode decision effective) = true ∧
        Plain (HumanReviewService.eventCode decision effective) ∧
        HumanReviewService.eventCode decision effective ≠ .humanReviewGuidanceApproved := by
  unfold HumanReviewService.eventCode
  split
  · exact .inr ⟨rfl, ⟨rfl, nofun, nofun⟩, nofun⟩
  · split
    · exact .inr ⟨rfl, ⟨rfl, nofun, nofun⟩, nofun⟩
    · exact .inl rfl

theorem requestIfRequired_ok {event : EventCode}
    (fires : plan.rule.event = event)
    (kind : event = .humanReviewGuidanceApproved ∨ asksConsultation event = true ∧ Plain event ∧
      event ≠ .humanReviewGuidanceApproved)
    (desk : Desk limit a.consultations)
    (h : HumanReviewService.requestIfRequired d request a plan limit = .ok b) :
    Mutated limit a.q.assignedUser request.now event a b := by
  unfold HumanReviewService.requestIfRequired at h
  split at h
  · rename_i approved
    cases h
    rw [fires] at approved
    subst approved
    exact mutated_kept ⟨rfl, nofun, nofun⟩ rfl
  · rename_i other
    obtain ⟨⟨requested, row⟩, asked, h⟩ := bind_eq_ok.1 h
    obtain ⟨⟨attached, final⟩, linked, h⟩ := bind_eq_ok.1 h
    cases h
    rcases kind with approved | ⟨asks, plain, _⟩
    · exact absurd (fires.trans approved) other
    · exact desk.mutated_attached plain asks asked linked

theorem decision_transition {settings : Settings} {w : World} {reviewId inquiry : Nat}
    {values : HumanReviewService.DecisionValues} {review row : HumanReview} {g : Stored Guidance}
    {audit : HumanReviewService.ConsultationAudit}
    (decides : Decides settings w request reviewId values inquiry a review g audit plan b row)
    (desk : Desk w.nextId a.consultations) :
    Transition w.nextId request.now
      (HumanReviewService.eventCode values.decision audit.effectiveRequiresConsultation) plan a b := by
  obtain ⟨resolved, _⟩ := reviewTransition_ok decides.moved
  obtain ⟨listed, fires, _⟩ := resolve_ok resolved
  have kind := eventCode_cases values.decision audit.effectiveRequiresConsultation
  have h := decides.written
  unfold HumanReviewService.write at h
  obtain ⟨⟨applied, shown⟩, applies, h⟩ := bind_eq_ok.1 h
  obtain ⟨guidances, rfl, _, _⟩ := applyGuidanceDecision_ok applies
  obtain ⟨stored, _, h⟩ := bind_eq_ok.1 h
  obtain ⟨requested, asked, h⟩ := bind_eq_ok.1 h
  obtain ⟨saved, hq, h⟩ := bind_eq_ok.1 h
  dsimp only at h
  rw [if_pos (records_business _ listed)] at h
  obtain ⟨recorded, hr, h⟩ := bind_eq_ok.1 h
  cases h
  obtain ⟨entry, same, _, rfl⟩ := recordHistory_ok.1 hr
  have rows := requestIfRequired_ok fires kind (a := { a with
    guidances := guidances, reviews := replaceRow (·.1.id) stored a.reviews }) desk asked
  have sameQ : requested.q = a.q := congrArg Subtype.val rows.inquiry
  have notFeedback : HumanReviewService.eventCode values.decision
      audit.effectiveRequiresConsultation ≠ .submitResolutionFeedback := by
    rcases kind with approved | ⟨_, plain, _⟩
    · rw [approved]
      exact nofun
    · exact plain.2.1
  refine transition_of_system requested id resolved
    (fun _ => ⟨rfl, rfl, rfl, rfl, rfl, rfl, rfl⟩) notFeedback rfl ?_
    (congrArg (· ++ [entry]) rows.history) ?_ ?_ rfl rfl rfl
  · rw [save_ok.1 hq, sameQ]
    rfl
  · rw [same]
    exact ⟨fires, rfl, rfl, rfl⟩
  · exact ⟨rows.inquiry, rows.history, rows.consultations, rows.visits, rows.followups⟩

/-! ### The events of an analysis -/

theorem applySystemEvent_ok {mark : Inquiry → Inquiry} {correlationId : Uuid} {key : String}
    (h : InquiryAIService.applySystemEvent a plan mark correlationId key now = .ok b) :
    ∃ (inquiry : Stored Inquiry) (row : Stored InquiryHistory),
      inquiry.1 = mark (applyStateTransition plan a.q) ∧
      row.1 = systemHistory a plan correlationId key none now ∧
      b = { a with inquiry := inquiry, history := a.history ++ [row] } := by
  unfold InquiryAIService.applySystemEvent at h
  obtain ⟨inquiry, saved, h⟩ := bind_eq_ok.1 h
  obtain ⟨row, same, _, rfl⟩ := recordHistory_ok.1 h
  exact ⟨inquiry, row, save_ok.1 saved, same, rfl⟩

/-- A failure event leaves the inquiry alone or moves it. -/
theorem applyFailureEvent_ok {event : EventCode} {guard : GuardId} {accepted : AIRun → Bool}
    {mark : Inquiry → Inquiry} {run : AIRun} {outcome : InquiryAIService.EventOutcome}
    (keeps : keepsConsultations event = true) (plain : Plain event)
    (marked : ∀ q, (mark q).id = q.id ∧ (mark q).subscription = q.subscription ∧
      (mark q).initiatedBy = q.initiatedBy ∧ (mark q).assignedUser = q.assignedUser ∧
      (mark q).assignedRole = q.assignedRole ∧ (mark q).status = q.status ∧
      (mark q).stateVersion = q.stateVersion)
    (h : InquiryAIService.applyFailureEvent event guard accepted mark d a run now =
      .ok (b, outcome)) :
    b = a ∨ ∃ plan, Transition limit now event plan a b := by
  unfold InquiryAIService.applyFailureEvent at h
  split at h
  · cases h
    exact .inl rfl
  · split at h
    · cases h
    · rename_i plan resolved
      split at h
      · cases h
        exact .inl rfl
      · split at h
        · obtain ⟨written, moved, h⟩ := bind_eq_ok.1 h
          cases h
          obtain ⟨inquiry, row, saved, same, rfl⟩ := applySystemEvent_ok moved
          obtain ⟨_, fires, _⟩ := resolve_ok resolved
          refine .inr ⟨plan, transition_of_system a mark resolved marked plain.2.1 rfl saved rfl
            ?_ (mutated_kept plain keeps) rfl rfl rfl⟩
          rw [same]
          exact ⟨fires, rfl, rfl, rfl⟩
        · cases h

/-! ### A validated result -/

theorem saveAssessment_ok {run : AIRun} {r : SymptomAnalysisResult}
    (h : InquiryAIService.saveAssessment a run r = .ok b) :
    ∃ row : Stored SymptomAssessment, b = { a with assessments := a.assessments ++ [row] } := by
  unfold InquiryAIService.saveAssessment at h
  obtain ⟨row, _, h⟩ := bind_eq_ok.1 h
  cases h
  exact ⟨row, rfl⟩

theorem saveLedger_ok {run : AIRun} {ledger : Option (Except String (List LedgerCause))}
    (h : InquiryAIService.saveLedger a run ledger = .ok b) :
    (ledger = none ∧ b = a) ∨ ∃ causes, ledger = some (.ok causes) ∧
      b = { a with causeLedgers := a.causeLedgers ++ [⟨run.id, causes⟩] } := by
  unfold InquiryAIService.saveLedger at h
  split at h
  · cases h
    exact .inl ⟨rfl, rfl⟩
  · cases h
  · cases h
    exact .inr ⟨_, rfl, rfl⟩

theorem saveFollowupQuestions_ok {id : Nat} {questions : List FollowUpQuestion}
    (h : InquiryAIService.saveFollowupQuestions a id questions = .ok b) :
    ∃ added, b = { a with questions := a.questions ++ added } := by
  induction questions generalizing a id with
  | nil =>
      cases h
      exact ⟨[], by rw [List.append_nil]⟩
  | cons question rest ih =>
      unfold InquiryAIService.saveFollowupQuestions at h
      split at h
      · exact ih h
      · split at h
        · obtain ⟨added, rfl⟩ := ih h
          exact ⟨_, by rw [List.append_assoc]⟩
        · cases h

theorem createPending_ok {g : Guidance} {aiRequestId : String} {sourceVersion id : Nat}
    (h : HumanReviewService.createPending a g aiRequestId sourceVersion id now = .ok b) :
    ∃ row : Stored HumanReview, b = { a with reviews := a.reviews ++ [row] } ∧
      row.1.status = .pending ∧ row.1.guidance = g.id ∧ row.1.sourceAiRequestId = aiRequestId ∧
      row.1.sourceInquiryStateVersion = sourceVersion ∧
      row.1.originalRequiresConsultation = g.requiresConsultation ∧
      row.1.origin = (HumanReviewService.consultationOrigin a g).1 ∧ row.1.id = id ∧
      ∀ r ∈ a.reviews, r.1.sourceAiRequestId ≠ aiRequestId ∨
        r.1.sourceInquiryStateVersion ≠ sourceVersion := by
  unfold HumanReviewService.createPending at h
  obtain ⟨row, saved, h⟩ := bind_eq_ok.1 h
  split at h
  · cases h
  · rename_i free
    cases h
    refine ⟨row, rfl, ?_⟩
    rw [save_ok.1 saved]
    refine ⟨rfl, rfl, rfl, rfl, rfl, rfl, rfl, ?_⟩
    intro r mem
    by_contra taken
    obtain ⟨request, version⟩ := not_or.1 taken
    refine free (List.any_eq_true.2 ⟨r, mem, ?_⟩)
    rw [decide_eq_true (not_not.1 request), decide_eq_true (not_not.1 version)]
    rfl

theorem saveGuidanceBundle_ok {run : AIRun} {r : SymptomAnalysisResult}
    {v : InquiryAIService.Verification} {id : Nat}
    (h : InquiryAIService.saveGuidanceBundle a run r v id now = .ok b) :
    ∃ guidance : Stored Guidance,
      guidance.1 = InquiryAIService.guidanceOfResult a run r v (id + 1) ∧
      (guidance.1.reviewStatus ≠ "PENDING" ∧
          b = { a with guidances := a.guidances ++ [guidance] } ∨
        guidance.1.reviewStatus = "PENDING" ∧
          HumanReviewService.createPending { a with guidances := a.guidances ++ [guidance] }
            guidance.1 run.idempotencyKey a.q.stateVersion id now = .ok b) := by
  unfold InquiryAIService.saveGuidanceBundle at h
  obtain ⟨guidance, saved, h⟩ := bind_eq_ok.1 h
  split at h
  · cases h
  · refine ⟨guidance, save_ok.1 saved, ?_⟩
    dsimp only at h
    split at h
    · rename_i pending
      exact .inr ⟨pending, h⟩
    · rename_i decided
      cases h
      exact .inl ⟨decided, rfl⟩

/-- The bundle of a result is saved as a whole, or nothing of it. -/
theorem saveBundle_ok {run : AIRun} {r : SymptomAnalysisResult}
    {v : InquiryAIService.Verification} {id : Nat} {verified : List String}
    (h : InquiryAIService.saveBundle a run r v id now = .ok (b, verified)) :
    b = a ∧ verified = [] ∨ verified = v.evidenceIds ∧ verified ≠ [] ∧
      InquiryAIService.saveGuidanceBundle a run r v id now = .ok b := by
  unfold InquiryAIService.saveBundle at h
  split at h
  · cases h
    exact .inl ⟨rfl, rfl⟩
  · rename_i some_evidence
    split at h
    · rename_i saved stored
      cases h
      refine .inr ⟨rfl, ?_, stored⟩
      intro empty
      exact some_evidence (List.isEmpty_iff.2 empty)
    · split at h
      · cases h
      · cases h
        exact .inl ⟨rfl, rfl⟩

theorem saveBundle_same {run : AIRun} {r : SymptomAnalysisResult}
    {v : InquiryAIService.Verification} {id : Nat} {verified : List String}
    (h : InquiryAIService.saveBundle a run r v id now = .ok (b, verified)) : SameCase a b := by
  rcases saveBundle_ok h with ⟨rfl, _⟩ | ⟨_, _, saved⟩
  · exact .refl _
  · obtain ⟨guidance, _, ⟨_, rfl⟩ | ⟨_, created⟩⟩ := saveGuidanceBundle_ok saved
    · exact .of_tables rfl rfl rfl rfl rfl
    · obtain ⟨row, rfl, _⟩ := createPending_ok created
      exact .of_tables rfl rfl rfl rfl rfl

theorem projected_same (q : Inquiry) (r : SymptomAnalysisResult) (verified : List String) :
    (InquiryAIService.projected q r verified).id = q.id ∧
      (InquiryAIService.projected q r verified).subscription = q.subscription ∧
      (InquiryAIService.projected q r verified).initiatedBy = q.initiatedBy ∧
      (InquiryAIService.projected q r verified).assignedUser = q.assignedUser ∧
      (InquiryAIService.projected q r verified).assignedRole = q.assignedRole ∧
      (InquiryAIService.projected q r verified).status = q.status ∧
      (InquiryAIService.projected q r verified).stateVersion = q.stateVersion := by
  unfold InquiryAIService.projected
  dsimp only
  split
  · exact ⟨rfl, rfl, rfl, rfl, rfl, rfl, rfl⟩
  · split
    · exact ⟨rfl, rfl, rfl, rfl, rfl, rfl, rfl⟩
    · split
      · exact ⟨rfl, rfl, rfl, rfl, rfl, rfl, rfl⟩
      · exact ⟨rfl, rfl, rfl, rfl, rfl, rfl, rfl⟩

/-- What a persisted result has written before its event. -/
theorem persist_ok {run : AIRun} {r : SymptomAnalysisResult} {v : InquiryAIService.Verification}
    {id : Nat} {outcome : InquiryAIService.EventOutcome}
    (h : InquiryAIService.persistValidatedResult d a run r v id now = .ok (b, outcome)) :
    (a.q.stateVersion ≠ r.stateVersion ∧ b = a ∧ outcome = InquiryAIService.staleOutcome) ∨
    a.q.stateVersion = r.stateVersion ∧
      ∃ (assessed audited asked saved : Aggregate) (verified : List String)
        (inquiry : Stored Inquiry),
        InquiryAIService.saveAssessment a run r = .ok assessed ∧
        InquiryAIService.saveLedger assessed run v.ledger = .ok audited ∧
        InquiryAIService.saveFollowupQuestions audited
          (id + 3 + r.usageGuidance.nextActions.length + v.evidenceIds.length) r.followupQuestions =
          .ok asked ∧
        InquiryAIService.saveBundle asked run r v (id + 1) now = .ok (saved, verified) ∧
        inquiry.1 = InquiryAIService.projected saved.q r verified ∧
        InquiryAIService.applyEventIfAllowed d { saved with inquiry := inquiry } r verified id
          now = .ok (b, outcome) := by
  unfold InquiryAIService.persistValidatedResult at h
  split at h
  · rename_i stale
    cases h
    exact .inl ⟨stale, rfl, rfl⟩
  · rename_i current
    obtain ⟨assessed, h₁, h⟩ := bind_eq_ok.1 h
    obtain ⟨audited, h₂, h⟩ := bind_eq_ok.1 h
    obtain ⟨asked, h₃, h⟩ := bind_eq_ok.1 h
    obtain ⟨⟨saved, verified⟩, h₄, h⟩ := bind_eq_ok.1 h
    obtain ⟨inquiry, h₅, h⟩ := bind_eq_ok.1 h
    exact .inr ⟨not_not.1 current, assessed, audited, asked, saved, verified, inquiry, h₁, h₂, h₃,
      h₄, save_ok.1 h₅, h⟩

/-- The rows of a result leave the case alone up to its event. -/
theorem projection_same {run : AIRun} {r : SymptomAnalysisResult}
    {v : InquiryAIService.Verification} {id id' : Nat} {assessed audited asked saved : Aggregate}
    {verified : List String} {inquiry : Stored Inquiry} {questions : List FollowUpQuestion}
    (h₁ : InquiryAIService.saveAssessment a run r = .ok assessed)
    (h₂ : InquiryAIService.saveLedger assessed run v.ledger = .ok audited)
    (h₃ : InquiryAIService.saveFollowupQuestions audited id questions = .ok asked)
    (h₄ : InquiryAIService.saveBundle asked run r v id' now = .ok (saved, verified))
    (h₅ : inquiry.1 = InquiryAIService.projected saved.q r verified) :
    SameCase a { saved with inquiry := inquiry } := by
  obtain ⟨row, rfl⟩ := saveAssessment_ok h₁
  have first : SameCase a asked := by
    obtain ⟨added, rfl⟩ := saveFollowupQuestions_ok h₃
    rcases saveLedger_ok h₂ with ⟨_, rfl⟩ | ⟨causes, _, rfl⟩
    · exact .of_tables rfl rfl rfl rfl rfl
    · exact .of_tables rfl rfl rfl rfl rfl
  refine (first.trans (saveBundle_same h₄)).trans ?_
  obtain ⟨id, subscription, initiatedBy, user, role, status, version⟩ :=
    projected_same saved.q r verified
  have q : ({ saved with inquiry := inquiry } : Aggregate).q =
    InquiryAIService.projected saved.q r verified := h₅
  refine ⟨?_, ?_, ?_, ?_, ?_, ?_, ?_, rfl, rfl, rfl, rfl⟩
  all_goals rw [q]
  all_goals assumption

/-- The events a result can have. -/
theorem eventOfResult_cases {r : SymptomAnalysisResult} {verified : List String}
    {event : EventCode} (h : InquiryAIService.eventOfResult r verified = .ok event) :
    event = .productValidationFailed ∨ event = .dangerDetected ∨ event = .noEvidence ∨
      event = .safeGuidanceReady := by
  unfold InquiryAIService.eventOfResult at h
  split at h
  · split at h
    · cases h
    · split at h
      · cases h
        exact .inr (.inr (.inl rfl))
      · cases h
  · rename_i candidate found
    have candidates : candidate = .productValidationFailed ∨ candidate = .dangerDetected ∨
        candidate = .noEvidence ∨ candidate = .safeGuidanceReady := by
      unfold eventCandidate at found
      split at found
      · cases found
        exact .inl rfl
      · split at found
        · cases found
          exact .inr (.inl rfl)
        · split at found
          · cases found
            exact .inr (.inr (.inl rfl))
          · split at found
            · cases found
              exact .inr (.inr (.inr rfl))
            · cases found
    split at h
    · split at h
      · cases h
        exact .inr (.inr (.inl rfl))
      · cases h
    · cases h
      exact candidates

theorem applyEventIfAllowed_ok {r : SymptomAnalysisResult} {verified : List String}
    {outcome : InquiryAIService.EventOutcome} (desk : Desk limit a.consultations)
    (h : InquiryAIService.applyEventIfAllowed d a r verified limit now = .ok (b, outcome)) :
    b = a ∨ ∃ event plan, InquiryAIService.eventOfResult r verified = .ok event ∧
      shipped.evaluate plan.rule a.snapshot (systemContext r.correlationId r.stateVersion
        (InquiryAIService.eventResults r verified event)) = none ∧
      Transition limit now event plan a b := by
  unfold InquiryAIService.applyEventIfAllowed at h
  split at h
  · cases h
    exact .inl rfl
  · rename_i event found
    split at h
    · cases h
    · rename_i plan resolved
      split at h
      · cases h
        exact .inl rfl
      · rename_i passed
        obtain ⟨moved, hm, h⟩ := bind_eq_ok.1 h
        obtain ⟨requested, hr, h⟩ := bind_eq_ok.1 h
        cases h
        obtain ⟨inquiry, row, saved, same, rfl⟩ := applySystemEvent_ok hm
        obtain ⟨_, fires, _⟩ := resolve_ok resolved
        refine .inr ⟨event, plan, found, passed, ?_⟩
        have entry : row.1.event = event ∧ row.1.fromState = some a.q.status ∧
            row.1.toState = plan.rule.target ∧ row.1.stateVersion = plan.version := by
          rw [same]
          exact ⟨fires, rfl, rfl, rfl⟩
        have unmarked : ∀ q : Inquiry, (id q).id = q.id ∧ (id q).subscription = q.subscription ∧
            (id q).initiatedBy = q.initiatedBy ∧ (id q).assignedUser = q.assignedUser ∧
            (id q).assignedRole = q.assignedRole ∧ (id q).status = q.status ∧
            (id q).stateVersion = q.stateVersion :=
          fun _ => ⟨rfl, rfl, rfl, rfl, rfl, rfl, rfl⟩
        unfold InquiryAIService.requestOnDanger at hr
        split at hr
        · rename_i danger
          rw [fires] at danger
          subst danger
          obtain ⟨⟨asked, row'⟩, requested', same'⟩ := map_eq_ok.1 hr
          cases same'
          have plain : Plain .dangerDetected := ⟨rfl, nofun, nofun⟩
          have desk' : Desk limit ({ a with
              inquiry := inquiry, history := a.history ++ [row] } : Aggregate).consultations :=
            desk
          have rows := desk'.mutated_request inquiry.1.assignedUser plain rfl requested'
          have user : inquiry.1.assignedUser = a.q.assignedUser := by
            rw [saved]
            rfl
          refine transition_of_system { asked with
              inquiry := a.inquiry, history := a.history } id resolved unmarked nofun
            rows.inquiry saved rows.history entry ?_ rfl rfl rfl
          refine ⟨rfl, rfl, ?_, rows.visits, rows.followups⟩
          rw [← user]
          exact rows.consultations
        · rename_i other
          rw [fires] at other
          cases hr
          refine transition_of_system a id resolved unmarked ?_ rfl saved rfl entry ?_ rfl rfl
            rfl
          · rcases eventOfResult_cases found with rfl | rfl | rfl | rfl
            all_goals exact nofun
          · rcases eventOfResult_cases found with rfl | rfl | rfl | rfl
            · exact mutated_kept ⟨rfl, nofun, nofun⟩ rfl
            · exact absurd rfl other
            · exact mutated_kept ⟨rfl, nofun, nofun⟩ rfl
            · exact mutated_kept ⟨rfl, nofun, nofun⟩ rfl

/-! ### The other rows of an analysis -/

theorem createRun_ok {analysis : InquiryAIService.AnalysisRequest} {id : Nat}
    (h : InquiryAIService.createRun a analysis id now = .ok b) :
    ∃ run : Stored AIRun, b = { a with runs := a.runs ++ [run] } ∧
      (run.1 = InquiryAIService.queuedRun id analysis now ∧ a.q.status ≠ .cancelled ∧
          a.q.stateVersion = analysis.stateVersion ∨
        run.1 = { InquiryAIService.queuedRun id analysis now with
          status := .cancelled, completedAt := some now
          errorCode := "CANCELLED_OR_STALE_INQUIRY" }) := by
  unfold InquiryAIService.createRun at h
  obtain ⟨run, saved, h⟩ := bind_eq_ok.1 h
  cases h
  refine ⟨run, rfl, ?_⟩
  have same := save_ok.1 saved
  split_ifs at same with closed
  · exact .inr same
  · obtain ⟨running, current⟩ := not_or.1 closed
    exact .inl ⟨same, running, not_not.1 current⟩

theorem changeRun_ok {id : Nat} {expected : RunStatus → Bool} {change : AIRun → AIRun}
    (h : InquiryAIService.changeRun a id expected change = .ok b) :
    ∃ run : Stored AIRun, InquiryAIService.runById a id = some run ∧
      (expected run.1.status = false ∧ b = a ∨
        expected run.1.status = true ∧ ∃ row : Stored AIRun, row.1 = change run.1 ∧
          b = { a with runs := replaceRow (·.1.id) row a.runs }) := by
  unfold InquiryAIService.changeRun at h
  split at h
  · cases h
  · rename_i run found
    refine ⟨run, found, ?_⟩
    split_ifs at h with isExpected
    · obtain ⟨row, saved, h⟩ := bind_eq_ok.1 h
      cases h
      exact .inr ⟨isExpected, row, save_ok.1 saved, rfl⟩
    · cases h
      exact .inl ⟨Bool.eq_false_iff.2 isExpected, rfl⟩

theorem changeRun_same {id : Nat} {expected : RunStatus → Bool} {change : AIRun → AIRun}
    (h : InquiryAIService.changeRun a id expected change = .ok b) : SameCase a b := by
  obtain ⟨run, _, ⟨_, rfl⟩ | ⟨_, row, _, rfl⟩⟩ := changeRun_ok h
  · exact .refl _
  · exact .of_tables rfl rfl rfl rfl rfl

theorem markResumeFailed_ok {review : HumanReview}
    (h : HumanReviewService.markResumeFailed a review now = .ok b) :
    review.status ≠ .pending ∧ ∃ row : Stored HumanReview,
      row.1 = { review with
        status := .resumeFailed, reviewStateVersion := review.reviewStateVersion + 1
        updatedAt := now } ∧
      b = { a with reviews := replaceRow (·.1.id) row a.reviews } := by
  unfold HumanReviewService.markResumeFailed at h
  split at h
  all_goals first
    | cases h
    | rename_i decided
      obtain ⟨row, saved, h⟩ := bind_eq_ok.1 h
      cases h
      refine ⟨?_, row, save_ok.1 saved, rfl⟩
      rw [decided]
      exact nofun

/-! ### Every write -/

/-- A timeout or a failure of an analysis leaves the inquiry as it is, or moves it by its event. -/
theorem RunStep.failed_moved {w : World} {step : RunStep} {run : AIRun}
    (reports : step = .applyTimeoutEvent ∨ step = .applyUnusableAiFailureEvent)
    (h : step.perform now w a run = .ok b) :
    b = a ∨ ∃ event plan, isAnalysis event = true ∧ keepsConsultations event = true ∧
      Transition w.nextId now event plan a b := by
  have failure {event : EventCode} {guard : GuardId} {accepted : AIRun → Bool}
      {mark : Inquiry → Inquiry} {outcome : InquiryAIService.EventOutcome}
      (analysis : isAnalysis event = true) (keeps : keepsConsultations event = true)
      (plain : Plain event)
      (marked : ∀ q, (mark q).id = q.id ∧ (mark q).subscription = q.subscription ∧
        (mark q).initiatedBy = q.initiatedBy ∧ (mark q).assignedUser = q.assignedUser ∧
        (mark q).assignedRole = q.assignedRole ∧ (mark q).status = q.status ∧
        (mark q).stateVersion = q.stateVersion)
      (applied : InquiryAIService.applyFailureEvent event guard accepted mark w.directory a run
        now = .ok (b, outcome)) :
      b = a ∨ ∃ event plan, isAnalysis event = true ∧ keepsConsultations event = true ∧
        Transition w.nextId now event plan a b := by
    rcases applyFailureEvent_ok keeps plain marked applied with same | ⟨plan, move⟩
    · exact .inl same
    · exact .inr ⟨event, plan, analysis, keeps, move⟩
  rcases reports with rfl | rfl
  · obtain ⟨⟨written, outcome⟩, applied, rfl⟩ := map_eq_ok.1 h
    unfold InquiryAIService.applyTimeoutEvent at applied
    refine failure ?_ ?_ ?_ ?_ applied
    · rfl
    · rfl
    · exact ⟨rfl, nofun, nofun⟩
    · exact fun _ => ⟨rfl, rfl, rfl, rfl, rfl, rfl, rfl⟩
  · obtain ⟨⟨written, outcome⟩, applied, rfl⟩ := map_eq_ok.1 h
    unfold InquiryAIService.applyUnusableAiFailureEvent at applied
    refine failure ?_ ?_ ?_ ?_ applied
    · rfl
    · rfl
    · exact ⟨rfl, nofun, nofun⟩
    · exact fun _ => ⟨rfl, rfl, rfl, rfl, rfl, rfl, rfl⟩

/-- A transaction of an analysis writes rows around the inquiry, or moves it by an event
of its own. -/
theorem RunStep.moved {w : World} {step : RunStep} {run : AIRun}
    (desk : Desk w.nextId a.consultations) (h : step.perform now w a run = .ok b) :
    SameCase a b ∨ ∃ event plan, isAnalysis event = true ∧
      Transition w.nextId now event plan a b ∧
      (1 ≤ step.identifiers run ∨ keepsConsultations event = true) := by
  have failure (reports : step = .applyTimeoutEvent ∨ step = .applyUnusableAiFailureEvent) :
      SameCase a b ∨ ∃ event plan, isAnalysis event = true ∧
        Transition w.nextId now event plan a b ∧
        (1 ≤ step.identifiers run ∨ keepsConsultations event = true) := by
    rcases RunStep.failed_moved reports h with rfl | ⟨event, plan, analysis, keeps, move⟩
    · exact .inl (.refl _)
    · exact .inr ⟨event, plan, analysis, move, .inr keeps⟩
  cases step with
  | markRunning =>
      unfold RunStep.perform InquiryAIService.markRunning at h
      exact .inl (changeRun_same h)
  | markSucceeded result =>
      unfold RunStep.perform at h
      dsimp only at h
      split_ifs at h
      exact .inl (changeRun_same h)
  | markFailed error =>
      unfold RunStep.perform InquiryAIService.markFailed at h
      exact .inl (changeRun_same h)
  | markDomainPersistenceFailed failureCode =>
      unfold RunStep.perform InquiryAIService.markDomainPersistenceFailed at h
      exact .inl (changeRun_same h)
  | persistValidatedResult verification =>
      unfold RunStep.perform at h
      dsimp only at h
      split at h
      · cases h
        exact .inl (.refl _)
      · rename_i result stored
        obtain ⟨⟨written, outcome⟩, persisted, rfl⟩ := map_eq_ok.1 h
        rcases persist_ok persisted with ⟨_, rfl, _⟩ |
          ⟨_, assessed, audited, asked, saved, verified, inquiry, h₁, h₂, h₃, h₄, h₅, h₆⟩
        · exact .inl (.refl _)
        · have same := projection_same h₁ h₂ h₃ h₄ h₅
          have desk' : Desk w.nextId ({ saved with inquiry := inquiry } : Aggregate).consultations :=
            same.consultations ▸ desk
          rcases applyEventIfAllowed_ok desk' h₆ with rfl | ⟨event, plan, found, _, move⟩
          · exact .inl same
          · refine .inr ⟨event, plan, ?_, same.transition move, .inl ?_⟩
            · rcases eventOfResult_cases found with rfl | rfl | rfl | rfl <;> rfl
            · unfold RunStep.identifiers
              dsimp only
              rw [stored]
              change 1 ≤ InquiryAIService.identifiers result verification
              unfold InquiryAIService.identifiers
              omega
  | applyTimeoutEvent => exact failure (.inl rfl)
  | applyUnusableAiFailureEvent => exact failure (.inr rfl)

/-- A hand-off leaves the case alone, or becomes the draft of the active consultation. -/
theorem attachHandoff_case {h : ConsultationHandoff} (desk : Desk limit a.consultations)
    (attached : ConsultationHandoffRepository.attachHandoff a h = .ok b) :
    SameCase a b ∨ b.inquiry = a.inquiry ∧ b.history = a.history ∧ b.visits = a.visits ∧
      b.followups = a.followups ∧ ∃ older c row draft, a.consultations = older ++ [c] ∧
        b.consultations = older ++ [row] ∧ c.1.status.isActive = true ∧
        row.1 = { c.1 with aiDraftSummary := draft } := by
  rcases attachHandoff_ok attached with ⟨handoffs, rfl⟩ |
    ⟨c, row, draft, handoffs, mem, active, same, rfl⟩
  · exact .inl (.of_tables rfl rfl rfl rfl rfl)
  · obtain ⟨older, split⟩ := desk.active_last mem active
    have put := desk.put row split (by rw [same])
    exact .inr ⟨rfl, rfl, rfl, rfl, older, c, row, draft, split, put, active, same⟩

theorem Change.of_attached {causes : EventCode → Plan → Prop} {a' : Aggregate}
    {h : ConsultationHandoff} {handoffs : List ConsultationHandoff}
    (desk : Desk limit a.consultations) (stored : a' = { a with handoffs := handoffs })
    (attached : ConsultationHandoffRepository.attachHandoff a' h = .ok b) :
    Change causes limit used now a b := by
  subst stored
  have desk' : Desk limit ({ a with handoffs := handoffs } : Aggregate).consultations := desk
  rcases attachHandoff_case desk' attached with
    same | ⟨inquiry, history, visits, followups, consultations⟩
  · have first : SameCase a { a with handoffs := handoffs } :=
      .of_tables rfl rfl rfl rfl rfl
    exact .still (first.trans same)
  · exact .drafted inquiry history visits followups consultations

/-- Every write is a change of one of the kinds. -/
theorem Writes.change {settings : Settings} {w : World} {act : Action} {inquiry used : Nat}
    (desk : Desk w.nextId a.consultations)
    (writes : Writes settings w act inquiry a b used) :
    Change (Cause settings w act inquiry a b) w.nextId used act.now a b := by
  cases writes with
  | @service _ request service _ _ _ plan _ serves commits =>
      have now_eq : act.now = request.now := by cases serves <;> rfl
      rw [now_eq]
      exact .moved service.event plan (.service serves commits rfl rfl)
        (serves.isService.transition commits desk) (.inl (Nat.le_refl 1))
  | actionResult reports =>
      have h := reports.written
      unfold ActionResultService.write at h
      obtain ⟨row, _, h⟩ := bind_eq_ok.1 h
      obtain ⟨saved, hq, h⟩ := bind_eq_ok.1 h
      cases h
      exact .reported reports.status (save_ok.1 hq) rfl rfl rfl rfl
  | decision decides =>
      refine .moved _ _ (.decision decides rfl rfl) (decision_transition decides desk) (.inl ?_)
      unfold HumanReviewService.identifiers
      omega
  | @reassignment _ _ _ _ _ _ _ c user reassigns =>
      obtain ⟨_, _, _, latest, _, _⟩ := lockConsultation_ok reassigns.locked
      obtain ⟨last, found, named⟩ := Option.map_eq_some_iff.1 latest
      have h := reassigns.written
      unfold SupervisorConsultationService.writeReassignment at h
      obtain ⟨row, hc, h⟩ := bind_eq_ok.1 h
      obtain ⟨saved, hq, h⟩ := bind_eq_ok.1 h
      cases h
      obtain ⟨_, mem, _, _, _, _⟩ := lockConsultation_ok reassigns.locked
      have same : last = c := desk.numbered.eq_of_id (List.argmax_mem found) mem named
      subst same
      obtain ⟨older, split⟩ := desk.latest_some found
      have put := desk.put row split (by rw [save_ok.1 hc]; rfl)
      exact .reassigned user.id (save_ok.1 hq) reassigns.unfinished rfl
        ⟨older, last, row, split, put, save_ok.1 hc, reassigns.running⟩ rfl rfl
  | createRun _ written =>
      obtain ⟨run, rfl, _⟩ := createRun_ok written
      exact .still (.of_tables rfl rfl rfl rfl rfl)
  | runStep _ _ written =>
      rcases RunStep.moved desk written with same | ⟨event, plan, fires, move, room⟩
      · exact .still same
      · exact .moved event plan (.analysis rfl fires) move room
  | handoff _ row attached =>
      rcases row with ⟨rfl, _⟩ | ⟨run, stored, _⟩
      · exact .of_attached desk rfl attached
      · exact .of_attached desk stored attached
  | resumeFailed _ _ written =>
      obtain ⟨_, row, _, rfl⟩ := markResumeFailed_ok written
      exact .still (.of_tables rfl rfl rfl rfl rfl)

end
end WaterCare.Runtime
