import WaterCare.Runtime.Commit

/-!
Everything a step can do to the inquiries of the database, said once: it leaves
them alone, opens a new one, or writes one of them in one of eight ways.
-/

namespace WaterCare.Runtime
open Machine Workflow Store Service Py Analysis

/-! ### The services on the shared transaction -/

section
variable (settings : Settings) (d : Directory) (request : Request)

/-- The operations of an assigned consultant, with the consultant in whose name they run. -/
inductive IsAssigned (consultant : User) (inquiry : Nat) : AssignedAction → Prop
  | start (version : Nat) :
      IsAssigned consultant inquiry (ConsultationService.start request inquiry version consultant)
  | saveSummary (version : Nat) (values : SummaryValues) :
      IsAssigned consultant inquiry (ConsultationService.saveSummary request inquiry version values)
  | confirmSummary (version : Nat) :
      IsAssigned consultant inquiry (ConsultationService.confirmSummary request inquiry version)
  | complete (version : Nat) :
      IsAssigned consultant inquiry (ConsultationService.complete request inquiry version)
  | requestReview (version : Nat) (reason : VisitReason) :
      IsAssigned consultant inquiry (VisitService.requestReview d request inquiry version reason)
  | createRequest (version : Nat) (values : VisitValues) (sent : Bool) :
      IsAssigned consultant inquiry
        (VisitService.createRequest d request inquiry version values sent)
  | markNotNeeded (version : Nat) (reason : VisitReason) :
      IsAssigned consultant inquiry (VisitService.markNotNeeded d request inquiry version reason)
  | updateSchedule (visit version : Nat) (values : ScheduleValues) :
      IsAssigned consultant inquiry
        (VisitService.updateSchedule d request inquiry version visit values)
  | confirm (visit version : Nat) :
      IsAssigned consultant inquiry (VisitService.confirm settings d request inquiry version visit)

/-- The services built on the shared transaction. -/
inductive IsService : InquiryAction → Prop
  | submitSymptom (inquiry version : Nat) :
      IsService (submitSymptom settings d request inquiry version)
  | submitAnswers (inquiry version : Nat) (answers : List FollowUpAnswerItem) :
      IsService (submitAnswers settings d request inquiry version answers)
  | requestConsultation (inquiry version : Nat) :
      IsService (requestConsultation settings d request inquiry version)
  | cancel (inquiry version : Nat) (cancellation : Cancellation) :
      IsService (cancel settings d request inquiry version cancellation)
  | assigned (consultant : User) (inquiry : Nat) {operation : AssignedAction} :
      IsAssigned settings d request consultant inquiry operation →
      IsService (operation.toInquiryAction settings d request consultant inquiry)
  | submitFeedback (inquiry version : Nat) (comment : Option String) :
      IsService (ResolutionService.submitFeedback settings d request inquiry version comment)
  | reportUnresolved (inquiry version : Nat) (reasonCode comment : Option String) :
      IsService
        (ResolutionService.reportUnresolved settings d request inquiry version reasonCode comment)
  | resumeConsultation (inquiry version : Nat) :
      IsService (ResolutionService.resumeConsultation settings d request inquiry version)
  | finalize (inquiry version : Nat) (finalNote : Option String) :
      IsService (ResolutionService.finalize settings d request inquiry version finalNote)
  | claim (inquiry version : Nat) :
      IsService (ConsultationClaimService.action settings d request inquiry version)

end

section
variable (settings : Settings) (w : World)

/-- The operation of an assigned consultant a supervisor runs, if any. -/
def supervised (request : Request) (inquiry version : Nat) (consultant : User) :
    SupervisorOperation → Option AssignedAction
  | .start _ => some (ConsultationService.start request inquiry version consultant)
  | .updateDetails _ values =>
      some (ConsultationService.saveSummary request inquiry version values)
  | .confirm _ => some (ConsultationService.confirmSummary request inquiry version)
  | .complete _ => some (ConsultationService.complete request inquiry version)
  | .reassign _ _ _ | .cancelInquiry _ _ | .cancelConsultation _ _ => none

/-- The consultation a supervisor names. -/
def consultationNamed : SupervisorOperation → Option Nat
  | .reassign consultation _ _ | .start consultation | .updateDetails consultation _
  | .confirm consultation | .complete consultation | .cancelConsultation consultation _ =>
      some consultation
  | .cancelInquiry _ _ => none

/-- The action of the system that runs a service. -/
inductive Serves : Action → Request → InquiryAction → Prop
  | act {request : Request} {operation : ActionRequest} {service : InquiryAction} :
      operation.action settings request w = some service →
      Serves (.request request (.act operation)) request service
  | claim (request : Request) (inquiry version : Nat) :
      Serves (.request request (.claim inquiry version)) request
        (ConsultationClaimService.action settings w.directory request inquiry version)
  | supervisor {request : Request} {operation : SupervisorOperation} {consultation inquiry : Nat}
      {a : Aggregate} {c : Stored Consultation} {consultant : User} {assigned : AssignedAction} :
      consultationNamed operation = some consultation →
      SupervisorConsultationService.lockConsultation w consultation = .ok (inquiry, a, c) →
      SupervisorConsultationService.requireAssignedConsultant w.directory c = .ok consultant →
      supervised request inquiry a.q.stateVersion consultant operation = some assigned →
      Serves (.supervise request operation) request
        (assigned.toInquiryAction settings w.directory request consultant inquiry)
  | supervisorCancel {request : Request} {operation : SupervisorOperation} {inquiry : Nat}
      {a : Aggregate} {detail : String} :
      w.aggregate inquiry = some a →
      Serves (.supervise request operation) request
        (cancel settings w.directory request inquiry a.q.stateVersion ⟨.other, some detail⟩)

theorem Serves.isService {act : Action} {request : Request} {service : InquiryAction}
    (serves : Serves settings w act request service) :
    IsService settings w.directory request service := by
  cases serves with
  | @act _ operation service h =>
      cases operation with
      | submitSymptom _ _ => cases h; exact .submitSymptom _ _
      | submitAnswers _ _ _ => cases h; exact .submitAnswers _ _ _
      | requestConsultation _ _ => cases h; exact .requestConsultation _ _
      | cancelInquiry _ _ _ => cases h; exact .cancel _ _ _
      | startConsultation _ _ => cases h; exact .assigned _ _ (.start _)
      | saveSummary _ _ _ => cases h; exact .assigned _ _ (.saveSummary _ _)
      | confirmSummary _ _ => cases h; exact .assigned _ _ (.confirmSummary _)
      | completeConsultation _ _ => cases h; exact .assigned _ _ (.complete _)
      | requestVisitReview _ _ _ => cases h; exact .assigned _ _ (.requestReview _ _)
      | createVisitRequest _ _ _ _ => cases h; exact .assigned _ _ (.createRequest _ _ _)
      | markVisitNotNeeded _ _ _ => cases h; exact .assigned _ _ (.markNotNeeded _ _)
      | updateVisitSchedule visit _ _ =>
          obtain ⟨inquiry, _, rfl⟩ := Option.map_eq_some_iff.1 h
          exact .assigned _ _ (.updateSchedule _ _ _)
      | confirmVisit visit _ =>
          obtain ⟨inquiry, _, rfl⟩ := Option.map_eq_some_iff.1 h
          exact .assigned _ _ (.confirm _ _)
      | submitFeedback _ _ _ => cases h; exact .submitFeedback _ _ _
      | reportUnresolved _ _ _ _ => cases h; exact .reportUnresolved _ _ _ _
      | resumeConsultation _ _ => cases h; exact .resumeConsultation _ _
      | finalizeInquiry _ _ _ => cases h; exact .finalize _ _ _
  | claim inquiry version => exact .claim _ _
  | @supervisor _ operation _ _ _ _ _ _ _ _ _ h =>
      cases operation with
      | start _ => cases h; exact .assigned _ _ (.start _)
      | updateDetails _ _ => cases h; exact .assigned _ _ (.saveSummary _ _)
      | confirm _ => cases h; exact .assigned _ _ (.confirmSummary _)
      | complete _ => cases h; exact .assigned _ _ (.complete _)
      | reassign _ _ _ => cases h
      | cancelInquiry _ _ => cases h
      | cancelConsultation _ _ => cases h
  | supervisorCancel _ => exact .cancel _ _ _

/-! ### The other transactions -/

/-- A new inquiry with the history row of its creation, and nothing else. -/
def Opened (request : Request) (q : Inquiry) (event : EventCode) (b : Aggregate) : Prop :=
  ∃ (stored : Stored Inquiry) (row : Stored InquiryHistory), stored.1 = q ∧
    row.1 = ⟨.user request.actor.id, event, none, q.status, q.stateVersion,
      request.correlationId.1, request.idempotencyKey.1, none, request.now⟩ ∧
    b = { emptyAggregate stored with history := [row] }

/-- The operations that open an inquiry. -/
inductive Opens : Action → Aggregate → Prop
  | start {request : Request} {values : StartValues} {subscription : Subscription}
      {b : Aggregate} :
      findActiveOwnedSubscription w.directory request.actor values.subscriptionId =
        some subscription →
      Opened request (newInquiry w.nextId subscription.id request.actor.id values.channelCode
        values.rawText .draft 1) .startInquiry b →
      Opens (.request request (.start values)) b
  | register {request : Request} {values : PhoneValues} {subscription : Subscription}
      {plan : Plan} {b : Aggregate} :
      lockActiveSyntheticSubscription w.directory values.subscriptionId = some subscription →
      shipped.resolve ⟨none, none⟩ .registerPhoneInquiry = .ok plan →
      shipped.evaluate plan.rule ⟨none, none⟩ (phoneContext request) = none →
      Opened request (values.inquiry request.actor plan w.nextId subscription.id)
        plan.rule.event b →
      Opens (.request request (.register values)) b

/-- A report of an action result has passed every check. -/
structure Reports (request : Request) (inquiry version : Nat) (values : ActionResultValues)
    (a : Aggregate) (item : GuidanceItem) (b : Aggregate) (result : Stored CustomerActionResult) :
    Prop where
  found : w.aggregate inquiry = some a
  owned : w.directory.owns request.actor a.q = true
  unrecorded : w.records.lookup (request.scope .createInquiryActionResult) = none
  status : a.q.status = .aiGuidance
  version : version = a.q.stateVersion
  listed : ActionResultService.lockGuidanceItem a values.guidanceItemId = some item
  written : ActionResultService.write request values a item w.nextId = .ok (b, result)

/-- A review decision has passed every check. -/
structure Decides (request : Request) (reviewId : Nat)
    (values : HumanReviewService.DecisionValues) (inquiry : Nat) (a : Aggregate)
    (review : HumanReview) (g : Stored Guidance) (audit : HumanReviewService.ConsultationAudit)
    (plan : Plan) (b : Aggregate) (row : HumanReview) : Prop where
  visible : HumanReviewService.lockVisible settings request.actor reviewId w =
    some (inquiry, a, review)
  unrecorded : w.records.lookup (request.scope .decideHumanReview) = none
  isDecidable : HumanReviewService.isDecidable a.q review values = true
  guidance : HumanReviewService.guidanceOf a review.guidance = some g
  audited : HumanReviewService.consultationAudit a review g.1 values = .ok audit
  moved : HumanReviewService.reviewTransition a
    (HumanReviewService.eventCode values.decision audit.effectiveRequiresConsultation)
    request.correlationId (HumanReviewService.reviewResults values.decision
      (HumanReviewService.evidenceReady a g.1) audit.effectiveRequiresConsultation) = .ok plan
  written : HumanReviewService.write w.directory request values a review g.1 audit plan w.nextId =
    .ok (b, row)

/-- A reassignment by the supervisor has passed every check. -/
structure Reassigns (request : Request) (consultation : Nat) (inquiry : Nat) (a : Aggregate)
    (c : Stored Consultation) (user : User) (b : Aggregate) : Prop where
  locked : SupervisorConsultationService.lockConsultation w consultation = .ok (inquiry, a, c)
  running : c.1.status ≠ .completed ∧ c.1.status ≠ .cancelled
  unfinished : a.q.status ≠ .resolved ∧ a.q.status ≠ .cancelled
  isActive : SupervisorConsultationService.isActiveConsultant user = true
  written : SupervisorConsultationService.writeReassignment a c user.id = .ok b

/-- The ways to write an inquiry, with the number of identifiers each may use. -/
inductive Writes : Action → Nat → Aggregate → Aggregate → Nat → Prop
  | service {act : Action} {request : Request} {service : InquiryAction} {a b : Aggregate}
      {context : ActionContext} {plan : Plan} {resource : Resource} :
      Serves settings w act request service →
      Commits service request w a context plan b resource →
      Writes act service.inquiry a b 1
  | actionResult {request : Request} {inquiry version : Nat} {values : ActionResultValues}
      {a b : Aggregate} {item : GuidanceItem} {result : Stored CustomerActionResult} :
      Reports w request inquiry version values a item b result →
      Writes (.request request (.createActionResult inquiry version values)) inquiry a b 1
  | decision {request : Request} {reviewId : Nat} {values : HumanReviewService.DecisionValues}
      {inquiry : Nat} {a : Aggregate} {review : HumanReview} {g : Stored Guidance}
      {audit : HumanReviewService.ConsultationAudit} {plan : Plan} {b : Aggregate}
      {row : HumanReview} :
      Decides settings w request reviewId values inquiry a review g audit plan b row →
      Writes (.request request (.decide reviewId values)) inquiry a b
        (HumanReviewService.identifiers g.1 values)
  | reassignment {request : Request} {consultation target inquiry : Nat} {reason : String}
      {a b : Aggregate} {c : Stored Consultation} {user : User} :
      Reassigns w request consultation inquiry a c user b →
      Writes (.supervise request (.reassign consultation target reason)) inquiry a b 0
  | createRun {now : Instant} {inquiry : Nat} {analysis : InquiryAIService.AnalysisRequest}
      {a b : Aggregate} :
      w.aggregate inquiry = some a → InquiryAIService.createRun a analysis w.nextId now = .ok b →
      Writes (.internal now (.createRun inquiry analysis)) inquiry a b 1
  | runStep {now : Instant} {inquiry run : Nat} {step : RunStep} {a b : Aggregate}
      {r : Stored AIRun} :
      w.aggregate inquiry = some a → InquiryAIService.runById a run = some r →
      step.perform now w a r.1 = .ok b →
      Writes (.internal now (.onRun inquiry run step)) inquiry a b (step.identifiers r.1)
  | handoff {now : Instant} {inquiry : Nat} {payload : HandoffPayload} {idempotencyKey : String}
      {correlationId : Uuid} {checkEvidence : AIRun → Except Failure Unit} {a a' b : Aggregate}
      {h : ConsultationHandoff} {used : Nat} :
      w.aggregate inquiry = some a →
      (a' = a ∧ used = 0 ∨ ∃ run, a' = { a with handoffs := a.handoffs ++ [h] } ∧
        h = ConsultationHandoffService.handoffRow payload run w.nextId now ∧ used = 1) →
      ConsultationHandoffRepository.attachHandoff a' h = .ok b →
      Writes (.internal now
        (.persistHandoff inquiry payload idempotencyKey correlationId checkEvidence)) inquiry a b
        used
  | resumeFailed {now : Instant} {inquiry review : Nat} {a b : Aggregate}
      {r : Stored HumanReview} :
      w.aggregate inquiry = some a →
      (a.reviews.find? fun r => decide (r.1.id = review)) = some r →
      HumanReviewService.markResumeFailed a r.1 now = .ok b →
      Writes (.internal now (.markResumeFailed inquiry review)) inquiry a b 0

/-- Everything a committed operation does to the inquiries. -/
inductive Effect (act : Action) (t : World) : Prop
  | untouched (same : t.inquiries = w.inquiries) (next : t.nextId = w.nextId)
  | opened (b : Aggregate) (opens : Opens w act b)
      (inserted : t.inquiries = w.inquiries.insert w.nextId b) (next : t.nextId = w.nextId + 1)
  | wrote (inquiry : Nat) (a b : Aggregate) (used : Nat)
      (writes : Writes settings w act inquiry a b used)
      (inserted : t.inquiries = w.inquiries.insert inquiry b) (next : t.nextId = w.nextId + used)

end

/-! ### Every operation -/

section
variable {settings : Settings} {w t : World}

theorem Commits.effect {act : Action} {request : Request} {service : InquiryAction}
    {a b : Aggregate} {context : ActionContext} {plan : Plan} {resource : Resource}
    {answer : Answer} (serves : Serves settings w act request service)
    (commits : Commits service request w a context plan b resource)
    (same : (t, answer) = committed service request w context b resource) :
    Effect settings w act t := by
  cases same
  exact .wrote service.inquiry a b 1 (.service serves commits) rfl rfl

theorem perform_effect {act : Action} {request : Request} {service : InquiryAction}
    {answer : Answer} (serves : Serves settings w act request service)
    (h : service.perform request w = .ok (t, answer)) : Effect settings w act t := by
  rcases perform_ok h with ⟨rfl, _⟩ | ⟨a, context, plan, b, resource, commits, same⟩
  · exact .untouched rfl rfl
  · exact commits.effect serves same

theorem linkOptional_ok {request : Request} {inquiry : Nat} {session : Option SessionAggregate}
    (h : InquiryLinkService.linkOptional request inquiry w session = .ok t) :
    t.inquiries = w.inquiries ∧ t.records = w.records ∧ t.directory = w.directory ∧
      t.nextId = w.nextId := by
  cases session with
  | none =>
      cases h
      exact ⟨rfl, rfl, rfl, rfl⟩
  | some candidate =>
      obtain ⟨linked, _, h⟩ := bind_eq_ok.1 h
      cases h
      exact ⟨rfl, rfl, rfl, rfl⟩

theorem createInquiry_ok {request : Request} {operation : OperationId} {requestHash : String}
    {q : Inquiry} {event : EventCode} {session : Option SessionAggregate} {answer : Answer}
    (h : createInquiry request operation requestHash q event session w = .ok (t, answer)) :
    ∃ b linked, Opened request q event b ∧
      InquiryLinkService.linkOptional request q.id w session = .ok linked ∧
      (t, answer) = linked.commit q.id b (request.scope operation) requestHash 201
        (createdBody q (currentActions w.directory b request.actor)) q.id request.now 1 := by
  unfold createInquiry at h
  obtain ⟨stored, saved, h⟩ := bind_eq_ok.1 h
  obtain ⟨linked, hl, h⟩ := bind_eq_ok.1 h
  obtain ⟨created, hc, h⟩ := bind_eq_ok.1 h
  obtain ⟨row, same, _, rfl⟩ := recordHistory_ok.1 hc
  exact ⟨_, linked, ⟨stored, row, save_ok.1 saved, same, rfl⟩, hl, (Except.ok.inj h).symm⟩

theorem start_effect {request : Request} {values : StartValues} {answer : Answer}
    (h : startInquiry settings request values w = .ok (t, answer)) :
    Effect settings w (.request request (.start values)) t := by
  unfold startInquiry at h
  split at h
  · cases h
  · rename_i subscription owned
    split at h
    · obtain ⟨rfl, _⟩ := replay_ok h
      exact .untouched rfl rfl
    · rename_i unrecorded
      rw [withIdempotencyRecord_new unrecorded] at h
      obtain ⟨session, _, h⟩ := bind_eq_ok.1 h
      obtain ⟨b, linked, opened, hl, same⟩ := createInquiry_ok h
      obtain ⟨inquiries, _, _, next⟩ := linkOptional_ok hl
      cases same
      refine .opened b (.start owned opened) ?_ ?_
      · exact congrArg (AList.insert w.nextId b) inquiries
      · exact congrArg (· + 1) next

theorem register_effect {request : Request} {values : PhoneValues} {answer : Answer}
    (h : registerPhoneInquiry settings request values w = .ok (t, answer)) :
    Effect settings w (.request request (.register values)) t := by
  unfold registerPhoneInquiry at h
  dsimp only at h
  split at h
  · cases h
  · rename_i subscription locked
    split at h
    · obtain ⟨rfl, _⟩ := replay_ok h
      exact .untouched rfl rfl
    · rename_i unrecorded
      split at h
      · cases h
      · rename_i plan resolved
        split at h
        · cases h
        · rename_i passed
          rw [withIdempotencyRecord_new unrecorded] at h
          obtain ⟨b, linked, opened, hl, same⟩ := createInquiry_ok h
          cases hl
          cases same
          exact .opened b (.register locked resolved passed opened) rfl rfl

/-- A report without an error has replayed, or passed every check and written. -/
theorem actionResult_ok {request : Request} {inquiry version : Nat}
    {values : ActionResultValues} {answer : Answer}
    (h : ActionResultService.create settings request inquiry version values w = .ok (t, answer)) :
    (t = w ∧ answer.replayed = true) ∨ ∃ a item b result,
      Reports w request inquiry version values a item b result ∧
      t.inquiries = w.inquiries.insert inquiry b ∧ t.nextId = w.nextId + 1 ∧
      answer.replayed = false := by
  unfold ActionResultService.create at h
  dsimp only at h
  split at h
  · cases h
  · rename_i a locked
    have ⟨found, owned⟩ := Option.filter_eq_some_iff.1 locked
    split at h
    · exact .inl ⟨(replay_ok h).1, replay_replayed h⟩
    · rename_i unrecorded
      split_ifs at h with conflict
      have ⟨status, current⟩ := not_or.1 conflict
      split at h
      · cases h
      · rename_i item listed
        rw [withIdempotencyRecord_new unrecorded] at h
        have ⟨⟨b, result⟩, written, h⟩ := bind_eq_ok.1 h
        cases h
        exact .inr ⟨a, item, b, result,
          ⟨found, owned, unrecorded, not_not.1 status, not_not.1 current, listed, written⟩, rfl, rfl,
          rfl⟩

theorem actionResult_effect {request : Request} {inquiry version : Nat}
    {values : ActionResultValues} {answer : Answer}
    (h : ActionResultService.create settings request inquiry version values w = .ok (t, answer)) :
    Effect settings w (.request request (.createActionResult inquiry version values)) t := by
  rcases actionResult_ok h with ⟨rfl, _⟩ | ⟨a, item, b, result, reports, inserted, next, _⟩
  · exact .untouched rfl rfl
  · exact .wrote inquiry a b 1 (.actionResult reports) inserted next

theorem lockVisible_found {actor : User} {reviewId inquiry : Nat} {a : Aggregate}
    {review : HumanReview}
    (h : HumanReviewService.lockVisible settings actor reviewId w = some (inquiry, a, review)) :
    w.aggregate inquiry = some a ∧ (∃ r ∈ a.reviews, r.1 = review) ∧ review.id = reviewId := by
  unfold HumanReviewService.lockVisible at h
  obtain ⟨owner, _, h⟩ := Option.bind_eq_some_iff.1 h
  obtain ⟨found, ha, h⟩ := Option.bind_eq_some_iff.1 h
  obtain ⟨row, hr, h⟩ := Option.bind_eq_some_iff.1 h
  split_ifs at h
  cases h
  have named := List.find?_some hr
  exact ⟨ha, ⟨row, List.mem_of_find?_eq_some hr, rfl⟩, of_decide_eq_true named⟩

/-- A decision without an error has replayed, or passed every check and written. -/
theorem decide_ok {request : Request} {reviewId : Nat}
    {values : HumanReviewService.DecisionValues} {answer : Answer}
    (h : HumanReviewService.decideHumanReview settings request reviewId values w =
      .ok (t, answer)) :
    (t = w ∧ answer.replayed = true) ∨ ∃ inquiry a review g audit plan b row,
      Decides settings w request reviewId values inquiry a review g audit plan b row ∧
      t.inquiries = w.inquiries.insert inquiry b ∧
      t.nextId = w.nextId + HumanReviewService.identifiers g.1 values ∧
      answer.replayed = false := by
  unfold HumanReviewService.decideHumanReview at h
  split at h
  · cases h
  · rename_i inquiry a review visible
    split at h
    · exact .inl ⟨(replay_ok h).1, replay_replayed h⟩
    · rename_i unrecorded
      unfold HumanReviewService.execute at h
      dsimp only at h
      split_ifs at h with conflict
      split at h
      · cases h
      · rename_i g guidance
        obtain ⟨audit, audited, h⟩ := bind_eq_ok.1 h
        obtain ⟨plan, moved, h⟩ := bind_eq_ok.1 h
        rw [withIdempotencyRecord_new unrecorded] at h
        obtain ⟨⟨b, row⟩, written, h⟩ := bind_eq_ok.1 h
        cases h
        have isDecidable : HumanReviewService.isDecidable a.q review values = true := by
          simpa using conflict
        exact .inr ⟨inquiry, a, review, g, audit, plan, b, row,
          ⟨visible, unrecorded, isDecidable, guidance, audited, moved, written⟩, rfl, rfl, rfl⟩

theorem decide_effect {request : Request} {reviewId : Nat}
    {values : HumanReviewService.DecisionValues} {answer : Answer}
    (h : HumanReviewService.decideHumanReview settings request reviewId values w =
      .ok (t, answer)) :
    Effect settings w (.request request (.decide reviewId values)) t := by
  rcases decide_ok h with ⟨rfl, _⟩ | ⟨inquiry, a, _, _, _, _, b, _, decides, inserted, next, _⟩
  · exact .untouched rfl rfl
  · exact .wrote inquiry a b _ (.decision decides) inserted next

theorem operation_effect {request : Request} {operation : Operation} {answer : Answer}
    (h : operation.perform settings request w = .ok (t, answer)) :
    Effect settings w (.request request operation) t := by
  cases operation with
  | start values => exact start_effect h
  | register values => exact register_effect h
  | act action =>
      unfold Operation.perform at h
      dsimp only at h
      split at h
      · cases h
      · rename_i service served
        exact perform_effect (.act served) h
  | createActionResult inquiry version values => exact actionResult_effect h
  | claim inquiry version =>
      rcases claim_ok h with ⟨rfl, _⟩ | ⟨a, context, plan, b, resource, commits, same⟩
      · exact .untouched rfl rfl
      · exact commits.effect (.claim request inquiry version) same
  | decide review values => exact decide_effect h

/-! ### The supervisor -/

theorem lockConsultation_ok {consultation inquiry : Nat} {a : Aggregate} {c : Stored Consultation}
    (h : SupervisorConsultationService.lockConsultation w consultation = .ok (inquiry, a, c)) :
    w.aggregate inquiry = some a ∧ c ∈ a.consultations ∧ c.1.id = consultation ∧
      a.latestConsultation.map (·.1.id) = some c.1.id ∧ w.directory.isSynthetic a.q = true ∧
      c.1.isSynthetic = true := by
  unfold SupervisorConsultationService.lockConsultation at h
  obtain ⟨⟨inquiry', a', c'⟩, hf, h⟩ := bind_eq_ok.1 h
  obtain ⟨_, hs, h⟩ := bind_eq_ok.1 h
  cases h
  unfold SupervisorConsultationService.findConsultation at hf
  dsimp only at hf
  split at hf
  · cases hf
  · split at hf
    · cases hf
    · rename_i found
      cases hf
      obtain ⟨a', ha, h⟩ := Option.bind_eq_some_iff.1 found
      obtain ⟨c', hc, same⟩ := Option.map_eq_some_iff.1 h
      cases same
      unfold SupervisorConsultationService.requireSyntheticLatest at hs
      dsimp only at hs
      split_ifs at hs with synthetic latest
      rw [Bool.not_eq_true', Bool.not_eq_false, Bool.and_eq_true] at synthetic
      have named := List.find?_some hc
      exact ⟨ha, List.mem_of_find?_eq_some hc, of_decide_eq_true named, not_not.1 latest,
        synthetic.1, synthetic.2⟩

theorem asConsultant_effect {request : Request} {operation : SupervisorOperation}
    {consultation : Nat} {action : Nat → Nat → User → AssignedAction}
    (names : consultationNamed operation = some consultation)
    (is : ∀ inquiry version consultant,
      supervised request inquiry version consultant operation =
        some (action inquiry version consultant))
    (h : SupervisorConsultationService.asConsultant settings request consultation action w =
      .ok t) : Effect settings w (.supervise request operation) t := by
  unfold SupervisorConsultationService.asConsultant at h
  obtain ⟨_, _, h⟩ := bind_eq_ok.1 h
  obtain ⟨⟨inquiry, a, c⟩, locked, h⟩ := bind_eq_ok.1 h
  obtain ⟨consultant, assigned, h⟩ := bind_eq_ok.1 h
  obtain ⟨⟨written, answer⟩, performed, h⟩ := bind_eq_ok.1 h
  cases h
  exact perform_effect (.supervisor names locked assigned (is _ _ _)) performed

theorem cancelInquiry_effect {request : Request} {operation : SupervisorOperation} {inquiry : Nat}
    {reason : String}
    (h : SupervisorConsultationService.cancelInquiry settings request inquiry reason w = .ok t) :
    Effect settings w (.supervise request operation) t := by
  unfold SupervisorConsultationService.cancelInquiry at h
  obtain ⟨_, _, h⟩ := bind_eq_ok.1 h
  obtain ⟨detail, _, h⟩ := bind_eq_ok.1 h
  split at h
  · cases h
  · rename_i a locked
    obtain ⟨found, _⟩ := Option.filter_eq_some_iff.1 locked
    obtain ⟨⟨written, answer⟩, performed, h⟩ := bind_eq_ok.1 h
    cases h
    exact perform_effect (.supervisorCancel found) performed

theorem reassign_effect {request : Request} {consultation target : Nat} {reason : String}
    (h : SupervisorConsultationService.reassign settings request consultation target reason w =
      .ok t) : Effect settings w (.supervise request (.reassign consultation target reason)) t := by
  unfold SupervisorConsultationService.reassign at h
  obtain ⟨_, _, h⟩ := bind_eq_ok.1 h
  obtain ⟨_, _, h⟩ := bind_eq_ok.1 h
  obtain ⟨⟨inquiry, a, c⟩, locked, h⟩ := bind_eq_ok.1 h
  dsimp only at h
  split_ifs at h with terminal
  obtain ⟨completed, h'⟩ := not_or.1 terminal
  obtain ⟨cancelled, h'⟩ := not_or.1 h'
  obtain ⟨resolved, withdrawn⟩ := not_or.1 h'
  split at h
  · cases h
  · rename_i user filtered
    obtain ⟨_, isActive⟩ := Option.filter_eq_some_iff.1 filtered
    obtain ⟨b, written, h⟩ := bind_eq_ok.1 h
    cases h
    exact .wrote inquiry a b 0
      (.reassignment ⟨locked, ⟨completed, cancelled⟩, ⟨resolved, withdrawn⟩, isActive, written⟩)
      rfl rfl

theorem supervise_effect {request : Request} {operation : SupervisorOperation}
    (h : operation.perform settings request w = .ok t) :
    Effect settings w (.supervise request operation) t := by
  cases operation with
  | reassign consultation target reason => exact reassign_effect h
  | start consultation => exact asConsultant_effect rfl (fun _ _ _ => rfl) h
  | updateDetails consultation values =>
      unfold SupervisorOperation.perform SupervisorConsultationService.updateDetails at h
      obtain ⟨_, _, h⟩ := bind_eq_ok.1 h
      obtain ⟨_, _, h⟩ := bind_eq_ok.1 h
      obtain ⟨_, _, h⟩ := bind_eq_ok.1 h
      split_ifs at h
      · cases h
        exact .untouched rfl rfl
      · exact asConsultant_effect rfl (fun _ _ _ => rfl) h
  | confirm consultation => exact asConsultant_effect rfl (fun _ _ _ => rfl) h
  | complete consultation => exact asConsultant_effect rfl (fun _ _ _ => rfl) h
  | cancelInquiry inquiry reason => exact cancelInquiry_effect h
  | cancelConsultation consultation reason =>
      unfold SupervisorOperation.perform SupervisorConsultationService.cancelConsultation at h
      obtain ⟨_, _, h⟩ := bind_eq_ok.1 h
      obtain ⟨_, _, h⟩ := bind_eq_ok.1 h
      obtain ⟨⟨inquiry, a, c⟩, _, h⟩ := bind_eq_ok.1 h
      obtain ⟨_, _, h⟩ := bind_eq_ok.1 h
      split_ifs at h
      exact cancelInquiry_effect h

/-! ### The Backend and the AI -/

/-- A delivered hand-off has its row: the one of an earlier delivery, which an older version
of the contract attaches again, or a new one. -/
inductive Delivers (w : World) (inquiry : Nat) (payload : HandoffPayload) (now : Instant)
    (a : Aggregate) (t : World) : Prop
  | replayed {h : ConsultationHandoff} (mem : h ∈ a.handoffs)
      (request : h.aiRequestId = payload.aiRequestId)
      (same : h.payloadSha256 = payload.payloadSha256) (still : t = w)
  | attached {h : ConsultationHandoff} {b : Aggregate} (mem : h ∈ a.handoffs)
      (request : h.aiRequestId = payload.aiRequestId)
      (same : h.payloadSha256 = payload.payloadSha256)
      (attached : ConsultationHandoffRepository.attachHandoff a h = .ok b)
      (written : t = w.put inquiry b)
  | created {run : AIRun} {h : ConsultationHandoff} {b : Aggregate}
      (row : h = ConsultationHandoffService.handoffRow payload run w.nextId now)
      (attached : ConsultationHandoffRepository.attachHandoff
        { a with handoffs := a.handoffs ++ [h] } h = .ok b)
      (written : t = { w.put inquiry b with nextId := w.nextId + 1 })

theorem persist_delivers {now : Instant} {inquiry : Nat} {payload : HandoffPayload}
    {idempotencyKey : String} {correlationId : Uuid} {checkEvidence : AIRun → Except Failure Unit}
    (h : ConsultationHandoffService.persist w inquiry payload idempotencyKey correlationId
      checkEvidence now = .ok t) :
    ∃ a, w.aggregate inquiry = some a ∧ Delivers w inquiry payload now a t := by
  unfold ConsultationHandoffService.persist at h
  split at h
  · cases h
  · rename_i a found
    refine ⟨a, found, ?_⟩
    split at h
    · cases h
    · split at h
      · rename_i existing located
        have request : existing.aiRequestId = payload.aiRequestId := by
          simpa using List.find?_some located
        split at h
        · cases h
        · rename_i same
          split at h
          · cases h
            exact .replayed (List.mem_of_find?_eq_some located) request (not_not.1 same) rfl
          · obtain ⟨b, attached, h⟩ := bind_eq_ok.1 h
            cases h
            exact .attached (List.mem_of_find?_eq_some located) request (not_not.1 same) attached rfl
      · obtain ⟨run, _, h⟩ := bind_eq_ok.1 h
        obtain ⟨b, attached, h⟩ := bind_eq_ok.1 h
        cases h
        exact .created rfl attached rfl

theorem persist_effect {now : Instant} {inquiry : Nat} {payload : HandoffPayload}
    {idempotencyKey : String} {correlationId : Uuid} {checkEvidence : AIRun → Except Failure Unit}
    (h : ConsultationHandoffService.persist w inquiry payload idempotencyKey correlationId
      checkEvidence now = .ok t) :
    Effect settings w (.internal now
      (.persistHandoff inquiry payload idempotencyKey correlationId checkEvidence)) t := by
  have ⟨a, found, delivers⟩ := persist_delivers h
  cases delivers with
  | replayed _ _ _ still =>
    rw [still]
    exact .untouched rfl rfl
  | @attached _ b _ _ _ attached written =>
    rw [written]
    exact .wrote inquiry a b 0 (.handoff found (.inl ⟨rfl, rfl⟩) attached) rfl rfl
  | @created run _ b row attached written =>
    rw [written]
    exact .wrote inquiry a b 1 (.handoff found (.inr ⟨run, rfl, row, rfl⟩) attached) rfl rfl

theorem internal_effect {now : Instant} {step : InternalStep}
    (h : step.perform now w = .ok t) : Effect settings w (.internal now step) t := by
  cases step with
  | createRun inquiry analysis =>
      unfold InternalStep.perform at h
      dsimp only at h
      split at h
      · cases h
      · rename_i a found
        split_ifs at h
        obtain ⟨b, written, h⟩ := bind_eq_ok.1 h
        cases h
        exact .wrote inquiry a b 1 (.createRun found written) rfl rfl
  | onRun inquiry run step =>
      unfold InternalStep.perform at h
      dsimp only at h
      split at h
      · cases h
      · rename_i a r located
        obtain ⟨a', found, h'⟩ := Option.bind_eq_some_iff.1 located
        obtain ⟨r', hr, same⟩ := Option.map_eq_some_iff.1 h'
        cases same
        obtain ⟨b, written, h⟩ := bind_eq_ok.1 h
        cases h
        exact .wrote inquiry a b _ (.runStep found hr written) rfl rfl
  | persistHandoff inquiry payload idempotencyKey correlationId checkEvidence =>
      exact persist_effect h
  | markResumeFailed inquiry review =>
      unfold InternalStep.perform at h
      dsimp only at h
      split at h
      · cases h
      · rename_i a r located
        obtain ⟨a', found, h'⟩ := Option.bind_eq_some_iff.1 located
        obtain ⟨r', hr, same⟩ := Option.map_eq_some_iff.1 h'
        cases same
        obtain ⟨b, written, h⟩ := bind_eq_ok.1 h
        cases h
        exact .wrote inquiry a b 0 (.resumeFailed found hr written) rfl rfl

/-! ### Steps and runs -/

theorem action_effect {act : Action} {answer : Option Answer}
    (h : act.perform settings w = .ok (t, answer)) : Effect settings w act t := by
  cases act with
  | request request operation =>
      obtain ⟨⟨t', answer'⟩, performed, same⟩ := map_eq_ok.1 h
      cases same
      exact operation_effect performed
  | supervise request operation =>
      obtain ⟨t', performed, same⟩ := map_eq_ok.1 h
      cases same
      exact supervise_effect performed
  | internal now step =>
      obtain ⟨t', performed, same⟩ := map_eq_ok.1 h
      cases same
      exact internal_effect performed
  | administer now directory =>
      cases h
      exact .untouched rfl rfl

/-- A step that has not failed is a performed action, and a failed one has no effect. -/
theorem step_cases {e : Event} (step : Step settings w e t) :
    (∃ answer, e.action.perform settings w = .ok (t, answer) ∧ e.outcome = .ok answer) ∨
      t = w ∧ ∃ failure, e.action.perform settings w = .error failure ∧
        e.outcome = .error failure := by
  obtain ⟨_, performed⟩ := step
  split at performed
  · rename_i written answer h
    obtain ⟨rfl, outcome⟩ := performed
    exact .inl ⟨answer, h, outcome⟩
  · rename_i failure h
    exact .inr ⟨performed.1, failure, h, performed.2⟩

theorem step_effect {e : Event} (step : Step settings w e t) : Effect settings w e.action t := by
  rcases step_cases step with ⟨answer, performed, _⟩ | ⟨rfl, _⟩
  · exact action_effect performed
  · exact .untouched rfl rfl

theorem Writes.found {act : Action} {inquiry used : Nat} {a b : Aggregate}
    (writes : Writes settings w act inquiry a b used) : w.aggregate inquiry = some a := by
  cases writes with
  | service _ commits => exact commits.found
  | actionResult reports => exact reports.found
  | decision decides => exact (lockVisible_found decides.visible).1
  | reassignment reassigns => exact (lockConsultation_ok reassigns.locked).1
  | createRun found _ => exact found
  | runStep found _ _ => exact found
  | handoff found _ _ => exact found
  | resumeFailed found _ _ => exact found

/-- What one step makes of an inquiry: it is as it was, new, or written. -/
theorem Effect.aggregate {act : Action} {inquiry : Nat} {b : Aggregate}
    (effect : Effect settings w act t) (found : t.aggregate inquiry = some b) :
    w.aggregate inquiry = some b ∨ (inquiry = w.nextId ∧ Opens w act b) ∨
      ∃ a used, Writes settings w act inquiry a b used := by
  cases effect with
  | untouched same _ =>
      left
      rwa [World.aggregate, same] at found
  | opened b' opens inserted _ =>
      rw [World.aggregate, inserted] at found
      by_cases new : inquiry = w.nextId
      · subst new
        rw [AList.lookup_insert] at found
        cases found
        exact .inr (.inl ⟨rfl, opens⟩)
      · rw [AList.lookup_insert_ne new] at found
        exact .inl found
  | wrote i a b' used writes inserted _ =>
      rw [World.aggregate, inserted] at found
      by_cases same : inquiry = i
      · subst same
        rw [AList.lookup_insert] at found
        cases found
        exact .inr (.inr ⟨a, used, writes⟩)
      · rw [AList.lookup_insert_ne same] at found
        exact .inl found

/-- The steps a run may take, by their action and the state before them. -/
def Allowed (settings : Settings) (ok : World → Action → Prop) : World → Event → World → Prop :=
  Restrict (fun w e => ok w e.action) (Step settings)

/-- What holds of every new inquiry and is kept by every write holds of every inquiry
of every database a run reaches. It may speak of the identifiers used so far. -/
theorem aggregate_invariant {ok : World → Action → Prop} {P : Nat → Nat → Aggregate → Prop}
    {start : World} {labels : List Event} (initial : Initial start)
    (mono : ∀ {n m i : Nat} {a : Aggregate}, n ≤ m → P n i a → P m i a)
    (opens : ∀ {w : World} {act : Action} {b : Aggregate}, ok w act → Opens w act b →
      P (w.nextId + 1) w.nextId b)
    (writes : ∀ {w : World} {before : List Event} {act : Action} {i used : Nat} {a b : Aggregate},
      Run (Allowed settings ok) start before w → ok w act → P w.nextId i a →
      Writes settings w act i a b used → P (w.nextId + used) i b)
    (run : Run (Allowed settings ok) start labels t) :
    ∀ i a, t.aggregate i = some a → P t.nextId i a := by
  induction run with
  | refl =>
      intro i a found
      rw [World.aggregate, initial.1] at found
      cases found
  | @snoc before w t e earlier last ih =>
      intro i b found
      cases step_effect last.2 with
      | untouched same next =>
          rw [World.aggregate, same] at found
          rw [next]
          exact ih i b found
      | opened b' opened inserted next =>
          rw [World.aggregate, inserted] at found
          rw [next]
          by_cases new : i = w.nextId
          · subst new
            rw [AList.lookup_insert] at found
            cases found
            exact opens last.1 opened
          · rw [AList.lookup_insert_ne new] at found
            exact mono (Nat.le_succ _) (ih i b found)
      | wrote j a b' used written inserted next =>
          rw [World.aggregate, inserted] at found
          rw [next]
          by_cases same : i = j
          · subst same
            rw [AList.lookup_insert] at found
            cases found
            exact writes earlier last.1 (ih i a written.found) written
          · rw [AList.lookup_insert_ne same] at found
            exact mono (Nat.le_add_right _ _) (ih i b found)

end
end WaterCare.Runtime
