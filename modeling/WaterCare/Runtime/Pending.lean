import WaterCare.Runtime.Reviews

/-!
A pending review stays decidable while nobody moves its inquiry: it is about the current
version, unless the customer has submitted answers since, and then a rejection goes through.
-/

namespace WaterCare.Runtime
open Machine Workflow Store Service Py Analysis

/-! ### The version of a review -/

/-- The customer submits the symptom or answers, with the version they are about. -/
inductive Submits (inquiry version : Nat) : Action → Prop
  | symptom (request : Request) :
      Submits inquiry version (.request request (.act (.submitSymptom inquiry version)))
  | answers (request : Request) (answers : List FollowUpAnswerItem) :
      Submits inquiry version (.request request (.act (.submitAnswers inquiry version answers)))

/-- The statuses before any outcome of an analysis. -/
def isAsking : InquiryState → Bool
  | .draft | .questionnaireInProgress => true
  | _ => false

theorem asking_rules : ∀ rule ∈ shipped.transitions, isAsking rule.target = true →
    (∀ source, rule.source = some source → isAsking source = true) ∧
      (rule.event = .submitSymptom ∨ rule.event = .submitAnswers) ∧
      GuardId.stateVersion ∈ rule.guardRefs ∨ rule.source = none := by
  decide

section
variable {settings : Settings} {w : World} {act : Action} {a b : Aggregate} {inquiry used : Nat}
  {request : Request} {service : InquiryAction}

/-- Only the two submissions of the customer have their events. -/
theorem Serves.submits (serves : Serves settings w act request service)
    (event : service.event = .submitSymptom ∨ service.event = .submitAnswers) :
    Submits service.inquiry service.requestedVersion act := by
  cases serves with
  | @act _ operation _ h =>
      cases operation with
      | submitSymptom _ _ =>
          cases h
          exact .symptom request
      | submitAnswers _ _ answers =>
          cases h
          exact .answers request answers
      | updateVisitSchedule visit _ _ | confirmVisit visit _ =>
          obtain ⟨_, _, rfl⟩ := Option.map_eq_some_iff.1 h
          rcases event with event | event <;> cases event
      | requestConsultation _ _ | cancelInquiry _ _ _ | startConsultation _ _ | saveSummary _ _ _
      | confirmSummary _ _ | completeConsultation _ _ | requestVisitReview _ _ _
      | createVisitRequest _ _ _ _ | markVisitNotNeeded _ _ _ | submitFeedback _ _ _
      | reportUnresolved _ _ _ _ | resumeConsultation _ _ | finalizeInquiry _ _ _ =>
          cases h
          rcases event with event | event <;> cases event
  | claim _ _ _ => rcases event with event | event <;> cases event
  | @supervisor _ operation _ _ _ _ _ _ _ _ _ h =>
      cases operation with
      | start _ | updateDetails _ _ | confirm _ | complete _ =>
          cases h
          rcases event with event | event <;> cases event
      | reassign _ _ _ | cancelInquiry _ _ | cancelConsultation _ _ => cases h
  | supervisorCancel _ => rcases event with event | event <;> cases event

/-- A pending review after a write is a new one of the current version, or it was there
before and the inquiry has its version still, unless the customer has submitted. -/
theorem Writes.pending {r : Stored HumanReview} (desk : Desk w.nextId a.consultations)
    (writes : Writes settings w act inquiry a b used) (asking : isAsking b.q.status = true)
    (mem : r ∈ b.reviews) (pending : r.1.status = .pending) :
    r.1.sourceInquiryStateVersion = b.q.stateVersion ∨
      isAsking a.q.status = true ∧ r ∈ a.reviews ∧ (b.q.stateVersion = a.q.stateVersion ∨
        b.q.stateVersion = a.q.stateVersion + 1 ∧ Submits inquiry a.q.stateVersion act) := by
  have still (status : b.q.status = a.q.status) (version : b.q.stateVersion = a.q.stateVersion) :
      r.1.sourceInquiryStateVersion = b.q.stateVersion ∨
        isAsking a.q.status = true ∧ r ∈ a.reviews ∧ (b.q.stateVersion = a.q.stateVersion ∨
          b.q.stateVersion = a.q.stateVersion + 1 ∧ Submits inquiry a.q.stateVersion act) := by
    have kept (old : r ∈ a.reviews) : r.1.sourceInquiryStateVersion = b.q.stateVersion ∨
        isAsking a.q.status = true ∧ r ∈ a.reviews ∧ (b.q.stateVersion = a.q.stateVersion ∨
          b.q.stateVersion = a.q.stateVersion + 1 ∧ Submits inquiry a.q.stateVersion act) :=
      .inr ⟨status ▸ asking, old, .inl version⟩
    cases writes.filing with
    | kept same => exact kept (same.reviews ▸ mem)
    | @reviewed _ row _ reviews _ decided _ _ _ _ =>
        rw [reviews] at mem
        rcases mem_replaceRow mem with old | ⟨rfl, _⟩
        · exact kept old
        · exact absurd pending decided
    | persisted _ bundle =>
        rcases bundle with ⟨_, reviews⟩ | ⟨_, _, _, _, reviews | ⟨new, appended, _, _, source, _⟩⟩
        · exact kept (reviews ▸ mem)
        · exact kept (reviews ▸ mem)
        · rw [appended] at mem
          rcases List.mem_append.1 mem with old | last
          · exact kept old
          · rw [List.mem_singleton.1 last, source, version]
            exact .inl rfl
  cases writes.change desk with
  | moved event plan cause move _ =>
      obtain ⟨listed, fires, source⟩ := move.rule_mem
      rw [move.status] at asking
      rcases asking_rules _ listed asking with ⟨before, event', versioned⟩ | none_source
      · rw [fires] at event'
        have other : isAnalysis event = false ∧ isDecision event = false := by
          rcases event' with rfl | rfl
          · exact ⟨rfl, rfl⟩
          · exact ⟨rfl, rfl⟩
        obtain ⟨request, service, context, resource, serves, commits, rfl, rfl⟩ :=
          cause.served other.1 other.2
        obtain ⟨records, _, _⟩ := commits.records serves.isService
        refine .inr ⟨before _ source, records.reviews ▸ mem, .inr ⟨move.version_succ, ?_⟩⟩
        rw [← commits.current versioned]
        exact serves.submits event'
      · rw [none_source] at source
        cases source
  | reported status inquiry' _ _ _ _ =>
      rw [inquiry'] at asking
      change isAsking a.q.status = true at asking
      rw [status] at asking
      cases asking
  | reassigned target inquiry' _ _ _ _ _ =>
      exact still (by rw [inquiry']) (by rw [inquiry'])
  | still same => exact still same.status same.version
  | drafted inquiry' _ _ _ _ =>
      have same : b.q = a.q := congrArg Subtype.val inquiry'
      exact still (by rw [same]) (by rw [same])

end

def versionAt (w : World) (inquiry : Nat) : Option Nat :=
  (w.aggregate inquiry).map (·.q.stateVersion)

/-- A review is about the current version of its inquiry, or the customer has submitted
something on the version it is about. -/
def Current (settings : Settings) (start : World) (labels : List Event) (w : World) (inquiry : Nat)
    (a : Aggregate) (r : HumanReview) : Prop :=
  r.sourceInquiryStateVersion ≤ a.q.stateVersion ∧
    (r.sourceInquiryStateVersion = a.q.stateVersion ∨
      Passes (Step settings) start labels w fun s e t _ =>
        Submits inquiry r.sourceInquiryStateVersion e.action ∧
          versionAt s inquiry = some r.sourceInquiryStateVersion ∧
          versionAt t inquiry = some (r.sourceInquiryStateVersion + 1))

section
variable {settings : Settings} {start w t : World} {labels : List Event} {e : Event}
  {inquiry : Nat} {a b : Aggregate} {r : HumanReview}

theorem Current.later (current : Current settings start labels w inquiry a r)
    (last : Step settings w e t) (version : b.q.stateVersion = a.q.stateVersion) :
    Current settings start (labels ++ [e]) t inquiry b r := by
  obtain ⟨le, same | submitted⟩ := current
  · exact ⟨version ▸ le, .inl (same.trans version.symm)⟩
  · exact ⟨version ▸ le, .inr (Passes.later submitted last fun _ h => h)⟩

/-- Every pending review of a run is about the current version, up to the submissions. -/
theorem run_current (initial : Initial start) (run : Run (Step settings) start labels w) :
    ∀ i a, w.aggregate i = some a → isAsking a.q.status = true → ∀ r ∈ a.reviews,
      r.1.status = .pending → Current settings start labels w i a r.1 := by
  induction run with
  | refl =>
      intro i a found
      rw [World.aggregate, initial.1] at found
      cases found
  | @snoc before s t e earlier last ih =>
      intro i b found asking r mem pending
      rcases (step_effect last).aggregate found with same | ⟨_, opens⟩ | ⟨a, used, writes⟩
      · exact (ih i b same asking r mem pending).later last rfl
      · rw [opens.records.2] at mem
        exact absurd mem List.not_mem_nil
      · have desk := (reachable_coupled initial (Run.allowed earlier) writes.found).desk
        rcases writes.pending desk asking mem pending with new | ⟨before, old, version | moved⟩
        · exact ⟨Nat.le_of_eq new, .inl new⟩
        · exact (ih i a writes.found before r old pending).later last version
        · obtain ⟨version, submits⟩ := moved
          obtain ⟨le, same | submitted⟩ := ih i a writes.found before r old pending
          · refine ⟨by omega, .inr (Passes.here earlier last ⟨same ▸ submits, ?_, ?_⟩)⟩
            · rw [versionAt, writes.found, same]
              rfl
            · rw [versionAt, found, same, ← version]
              rfl
          · exact ⟨by omega, .inr (Passes.later submitted last fun _ h => h)⟩

end

/-! ### The rejection -/

/-- A valid rejection of a review in the version that is shown. -/
structure IsRejection (values : HumanReviewService.DecisionValues) (r : HumanReview) : Prop where
  decision : values.decision = .reject
  version : values.reviewStateVersion = r.reviewStateVersion
  disposition : values.disposition = .preserve
  reason : values.consultationReasonCode = none
  evidence : values.consultationEvidenceIds.getD [] = []
  unmodified : values.modifiedGuidance = none

/-- The account of the customer of an inquiry. -/
def ownerAccount (d : Directory) (q : Inquiry) : Option User :=
  (d.customerOf q).bind fun c => c.user.bind d.user

/-- A rejection by a reviewer who sees the review goes through, if the customer still has
an account; it is never answered with a state conflict. -/
def CanReject (settings : Settings) (w : World) (inquiry : Nat) (a : Aggregate)
    (r : HumanReview) : Prop :=
  ∀ (request : Request) (values : HumanReviewService.DecisionValues), IsRejection values r →
    HumanReviewService.lockVisible settings request.actor r.id w = some (inquiry, a, r) →
    w.records.lookup (request.scope .decideHumanReview) = none →
    (∃ t answer, HumanReviewService.decideHumanReview settings request r.id values w =
        .ok (t, answer) ∧ answer.replayed = false) ∨
      ownerAccount w.directory a.q = none ∧
        HumanReviewService.decideHumanReview settings request r.id values w =
          .error (.raised "AttributeError")

section
variable {settings : Settings} {w : World} {inquiry limit : Nat} {a : Aggregate}
  {r : Stored HumanReview} {request : Request} {values : HumanReviewService.DecisionValues}

theorem reviewed_accepts (g : Stored Guidance) {status : String} {actor : Nat} {now : Instant}
    (text : hasText status = true) :
    Table.accepts (HumanReviewService.reviewed g.1 status actor now) = true := by
  have accepted := g.2
  change (decide (0 < g.1.guidanceVersion) && hasText g.1.reviewStatus && hasText g.1.title &&
    hasText g.1.summaryText && hasText g.1.evidenceSufficiency &&
    g.1.reviewedBy.isNone == g.1.reviewedAt.isNone && _) = true at accepted
  change (decide (0 < g.1.guidanceVersion) && hasText status && hasText g.1.title &&
    hasText g.1.summaryText && hasText g.1.evidenceSufficiency && true && _) = true
  simp only [Bool.and_eq_true, decide_eq_true_eq] at accepted ⊢
  obtain ⟨⟨⟨⟨⟨⟨version, _⟩, title⟩, summary⟩, evidence⟩, _⟩, items⟩ := accepted
  exact ⟨⟨⟨⟨⟨⟨version, text⟩, title⟩, summary⟩, evidence⟩, trivial⟩, items⟩

theorem rejected_accepts {audit : HumanReviewService.ConsultationAudit}
    (rejection : IsRejection values r.1) :
    Table.accepts (HumanReviewService.decided r.1 values audit none request) = true := by
  have accepted := r.2
  change (decide (0 < r.1.reviewStateVersion) && decide (0 < r.1.sourceInquiryStateVersion) &&
    _ && _) = true at accepted
  simp only [Bool.and_eq_true, decide_eq_true_eq] at accepted
  obtain ⟨⟨⟨_, source⟩, _⟩, _⟩ := accepted
  unfold HumanReviewService.decided
  rw [rejection.decision, rejection.unmodified]
  change (decide (0 < r.1.reviewStateVersion + 1) && decide (0 < r.1.sourceInquiryStateVersion) &&
    true && true) = true
  rw [decide_eq_true (Nat.succ_pos _), decide_eq_true source]
  rfl

theorem Coupled.unconsulted (coupled : Coupled limit a) (intake : stage a.q.status = .intake) :
    a.consultations = [] := by
  have stands := coupled.stands
  rw [intake] at stands
  exact List.getLast?_eq_none_iff.1 (Option.map_eq_none_iff.1 stands)

/-- The plan of a rejection sends the inquiry to the consultation queue. -/
def rejects (plan : Plan) : Bool :=
  decide (plan.rule.target = .consultationRequired) && plan.rule.recordBusinessEvent &&
    answers .system [.humanReviewRejected] plan.rule &&
    !(shipped.events plan.rule.event).requiresIdempotencyKey

/-- The consultation of a decision opens where there is none, if the customer has an account. -/
theorem requestIfRequired_total {d : Directory} {plan : Plan} {id : Nat}
    (event : plan.rule.event ≠ .humanReviewGuidanceApproved) (unconsulted : a.consultations = [])
    (isStamp : IsStamp (request.stamp plan)) :
    (∃ b, HumanReviewService.requestIfRequired d request a plan id = .ok b ∧
        b.inquiry = a.inquiry ∧ b.history = a.history) ∨
      ownerAccount d a.q = none ∧ HumanReviewService.requestIfRequired d request a plan id =
        .error (.raised "AttributeError") := by
  have latest : ConsultationRepository.lockLatest a = none := by
    change newest _ a.consultations = none
    rw [unconsulted]
    rfl
  unfold HumanReviewService.requestIfRequired
  rw [if_neg event, latest]
  cases account : ownerAccount d a.q with
  | none =>
      rw [request_fails account]
      exact .inr ⟨rfl, rfl⟩
  | some user =>
      obtain ⟨customer, owner, account⟩ := Option.bind_eq_some_iff.1 account
      obtain ⟨row, opens⟩ : ∃ row, ConsultationRepository.request d a (request.stamp plan) none id
          request.now = .ok ({ a with consultations := a.consultations ++ [row] }, row) :=
        request_opens isStamp owner account
      obtain ⟨b, final, attaches, inquiry, history⟩ :=
        attachToLatest_total { a with consultations := a.consultations ++ [row] } row
      refine .inl ⟨b, ?_, inquiry, history⟩
      rw [bind_of_ok opens]
      dsimp only
      rw [bind_of_ok attaches]
      rfl

/-- The writes of a rejection of an inquiry without consultations. -/
theorem write_rejection {d : Directory} {plan : Plan} (id : Nat)
    (audit : HumanReviewService.ConsultationAudit) (g : Stored Guidance)
    (rejection : IsRejection values r.1) (unconsulted : a.consultations = [])
    (recorded : ∀ h ∈ a.history, h.1.stateVersion ≤ a.q.stateVersion)
    (open_ : a.q.status ≠ .cancelled) (target : plan.rule.target ≠ .cancelled)
    (event : plan.rule.event = .humanReviewRejected)
    (business : plan.rule.recordBusinessEvent = true)
    (version : plan.version = a.q.stateVersion + 1) :
    (∃ written, HumanReviewService.write d request values a r.1 g.1 audit plan id = .ok written) ∨
      ownerAccount d a.q = none ∧
        HumanReviewService.write d request values a r.1 g.1 audit plan id =
          .error (.raised "AttributeError") := by
  have accepted : Table.accepts (HumanReviewService.reviewed g.1 "REJECTED" request.actor.id
      request.now) = true := reviewed_accepts g (by decide)
  have accepted' : Table.accepts (HumanReviewService.decided r.1 values audit none request) = true :=
    rejected_accepts rejection
  let marked : Stored Guidance := ⟨_, accepted⟩
  let row : Stored HumanReview := ⟨_, accepted'⟩
  let applied : Aggregate := { a with guidances := replaceRow (·.1.id) marked a.guidances }
  have applies : HumanReviewService.applyGuidanceDecision a g.1 values
      audit.effectiveRequiresConsultation request.actor.id (id + 1) request.now =
        .ok (applied, none) := by
    have notApproved : ¬(values.decision = .approve ∧
        g.1.requiresConsultation = audit.effectiveRequiresConsultation) := by
      rw [rejection.decision]
      exact fun h => nomatch h.1
    have saved : save (HumanReviewService.reviewed g.1 "REJECTED" request.actor.id request.now)
        "ValidationError" = .ok marked := save_ok.2 rfl
    unfold HumanReviewService.applyGuidanceDecision
    rw [if_neg notApproved, bind_of_ok saved]
    exact if_pos rejection.decision
  have decides : save (HumanReviewService.decided r.1 values audit none request)
      "ValidationError" = .ok row := save_ok.2 rfl
  have positive : IsStamp (request.stamp plan) := by
    refine ⟨?_, key_ne_empty request.idempotencyKey⟩
    change 0 < plan.version
    omega
  unfold HumanReviewService.write
  rw [bind_of_ok applies]
  dsimp only
  rw [bind_of_ok decides]
  rcases requestIfRequired_total (d := d) (a := { applied with
    reviews := replaceRow (·.1.id) row applied.reviews }) (by rw [event]; exact nofun) unconsulted
    positive with ⟨b, asked, inquiry, history⟩ | ⟨missing, failed⟩
  · left
    have moved : Table.accepts (applyStateTransition plan b.q) = true := by
      have same : b.q = a.q := congrArg Subtype.val inquiry
      rw [same]
      exact moved_accepts open_ target (by omega)
    obtain ⟨saved, hq⟩ : ∃ saved, save (applyStateTransition plan b.q) "IntegrityError" =
        .ok saved := save_isOk.2 moved
    obtain ⟨entry, _, hr⟩ : ∃ entry : Stored InquiryHistory, _ ∧ Aggregate.recordHistory
        { b with inquiry := saved } (systemHistory a plan request.correlationId
          request.idempotencyKey.1 (some (row.1.decisionReasonCode.getD "" ++ " | review=" ++
            toString r.1.id)) request.now) = .ok _ :=
      recordHistory_next (m := { b with inquiry := saved })
        (fun h mem => recorded h (history ▸ mem)) version rfl
    refine ⟨({ b with inquiry := saved, history := b.history ++ [entry] }, row.1), ?_⟩
    rw [bind_of_ok asked, bind_of_ok hq]
    simp only [if_pos business, bind_of_ok hr]
    rfl
  · right
    rw [failed]
    exact ⟨missing, rfl⟩

theorem canReject (coupled : Coupled w.nextId a) (filed : Filed w.nextId a) (mem : r ∈ a.reviews)
    (pending : r.1.status = .pending) (status : a.q.status = .questionnaireInProgress)
    (current : r.1.sourceInquiryStateVersion = a.q.stateVersion) :
    CanReject settings w inquiry a r.1 := by
  intro request values rejection visible unrecorded
  have unvisited : a.visits = [] := coupled.unvisited (by rw [status]; rfl)
  have unconsulted : a.consultations = [] := coupled.unconsulted (by rw [status]; rfl)
  have snapshot : a.snapshot = ⟨some (.questionnaireInProgress, a.q.stateVersion), none⟩ := by
    unfold Aggregate.snapshot Aggregate.latestVisitStatus Aggregate.latestVisit
    rw [status, unvisited]
    rfl
  have isDecidable : HumanReviewService.isDecidable a.q r.1 values = true := by
    unfold HumanReviewService.isDecidable
    rw [pending, rejection.version, status, current]
    simp
  obtain ⟨g, guidance⟩ : ∃ g, HumanReviewService.guidanceOf a r.1.guidance = some g := by
    obtain ⟨g, there, number⟩ := List.mem_map.1 (filed.known r mem)
    exact Option.isSome_iff_exists.1 (List.find?_isSome.2 ⟨g, there, decide_eq_true number⟩)
  let audit : HumanReviewService.ConsultationAudit := ⟨true, .require, some .humanReviewRejected, []⟩
  have audited : HumanReviewService.consultationAudit a r.1 g.1 values = .ok audit := by
    unfold HumanReviewService.consultationAudit
    dsimp only
    rw [if_pos rejection.decision, if_neg]
    rw [rejection.disposition, rejection.reason, rejection.evidence]
    simp
  have found_plan : ∃ plan, shipped.resolve
      ⟨some (.questionnaireInProgress, a.q.stateVersion), none⟩ .humanReviewRejected =
        .ok { plan with version := a.q.stateVersion + 1 } ∧ plan.rule ∈ shipped.transitions ∧
      plan.rule.event = .humanReviewRejected ∧ rejects plan = true := accepted_plan (by decide) _
  obtain ⟨plan, resolved, listed, fires, keeps⟩ := found_plan
  rw [rejects, Bool.and_eq_true, Bool.and_eq_true, Bool.and_eq_true, decide_eq_true_eq,
    Bool.not_eq_true'] at keeps
  obtain ⟨⟨⟨target, business⟩, answered⟩, keyless⟩ := keeps
  let next : Plan := { plan with version := a.q.stateVersion + 1 }
  have moved : HumanReviewService.reviewTransition a
      (HumanReviewService.eventCode values.decision audit.effectiveRequiresConsultation)
      request.correlationId (HumanReviewService.reviewResults values.decision
        (HumanReviewService.evidenceReady a g.1) audit.effectiveRequiresConsultation) =
      .ok next := by
    have passed : shipped.evaluate plan.rule a.snapshot (systemContext request.correlationId
        a.q.stateVersion (HumanReviewService.reviewResults values.decision
          (HumanReviewService.evidenceReady a g.1) audit.effectiveRequiresConsultation)) = none := by
      refine system_passes listed answered keyless ?_
      intro guard one
      rw [List.mem_singleton.1 one, rejection.decision]
      rfl
    have event : HumanReviewService.eventCode values.decision audit.effectiveRequiresConsultation =
        .humanReviewRejected := if_pos rejection.decision
    unfold HumanReviewService.reviewTransition
    rw [event, snapshot, resolved]
    dsimp only
    rw [← snapshot]
    rw [passed]
  have open_ : a.q.status ≠ .cancelled := by
    rw [status]
    intro same
    cases same
  have queued : next.rule.target ≠ .cancelled := by
    change plan.rule.target ≠ _
    rw [target]
    intro same
    cases same
  have outcome : (∃ written, HumanReviewService.write w.directory request values a r.1 g.1 audit
      next w.nextId = .ok written) ∨ ownerAccount w.directory a.q = none ∧
        HumanReviewService.write w.directory request values a r.1 g.1 audit next w.nextId =
          .error (.raised "AttributeError") :=
    write_rejection w.nextId audit g rejection unconsulted coupled.recorded open_ queued fires
      business rfl
  unfold HumanReviewService.decideHumanReview
  rw [visible]
  dsimp only
  rw [unrecorded]
  dsimp only
  unfold HumanReviewService.execute
  dsimp only
  rw [isDecidable, guidance]
  dsimp only
  simp only [bind_of_ok audited, bind_of_ok moved, withIdempotencyRecord_new unrecorded]
  rcases outcome with ⟨⟨b, row⟩, written⟩ | ⟨missing, failed⟩
  · exact .inl ⟨_, _, bind_of_ok written, rfl⟩
  · refine .inr ⟨missing, ?_⟩
    rw [failed]
    rfl

end

/-- In every run a pending review of an open questionnaire is about the current version of
its inquiry, unless the customer has submitted on the version it is about; and a review
that is listed can be rejected by everyone who sees it. -/
theorem run_reviews {settings : Settings} {start w : World} {labels : List Event}
    (initial : Initial start) (run : Run (Step settings) start labels w) :
    ∀ i a, w.aggregate i = some a → a.q.status = .questionnaireInProgress → ∀ r ∈ a.reviews,
      r.1.status = .pending → Current settings start labels w i a r.1 ∧
        (HumanReviewService.isListed a.q r.1 = true → CanReject settings w i a r.1) := by
  intro i a found status r mem pending
  refine ⟨run_current initial run i a found (by rw [status]; rfl) r mem pending, ?_⟩
  intro listed
  unfold HumanReviewService.isListed at listed
  rw [Bool.and_eq_true, Bool.and_eq_true, decide_eq_true_eq, decide_eq_true_eq,
    decide_eq_true_eq] at listed
  exact canReject (reachable_coupled initial (Run.allowed run) found)
    (reachable_filed initial (Run.allowed run) found) mem pending status listed.2

theorem run_reviews_reviewing :
    ∃ a r, (trace Sample.settings Sample.world (Sample.reviewing [])).2.aggregate 10 = some a ∧
      r ∈ a.reviews ∧ r.1.status = .pending ∧
      Current Sample.settings Sample.world
        (trace Sample.settings Sample.world (Sample.reviewing [])).1
        (trace Sample.settings Sample.world (Sample.reviewing [])).2 10 a r.1 ∧
      CanReject Sample.settings (trace Sample.settings Sample.world (Sample.reviewing [])).2 10 a
        r.1 := by
  have run : Run (Step Sample.settings) Sample.world
      (trace Sample.settings Sample.world (Sample.reviewing [])).1
      (trace Sample.settings Sample.world (Sample.reviewing [])).2 := trace_run (by decide +kernel)
  have listed : ((trace Sample.settings Sample.world (Sample.reviewing [])).2.aggregate 10).any
      (fun a => decide (a.q.status = .questionnaireInProgress) && a.reviews.any fun r =>
        decide (r.1.status = .pending) && HumanReviewService.isListed a.q r.1) = true := by
    decide +kernel
  obtain ⟨a, found, holds⟩ := (Option.any_eq_true _ _).1 listed
  rw [Bool.and_eq_true, decide_eq_true_eq] at holds
  obtain ⟨r, mem, both⟩ := List.any_eq_true.1 holds.2
  rw [Bool.and_eq_true, decide_eq_true_eq] at both
  obtain ⟨current, rejectable⟩ :=
    run_reviews Sample.world_initial run 10 a found holds.1 r mem both.1
  exact ⟨a, r, found, mem, both.1, current, rejectable both.2⟩

/-- The result under review asks a question, and the customer answers it. -/
def answering : List Action :=
  Sample.reviewing [⟨"question-1", "Is the lamp on?", [], "lamp"⟩] ++
  [Sample.send Sample.customer 106 (.act (.submitAnswers 10 2 [⟨17, some "yes", none⟩]))]

theorem answered_review_outdated :
    ∃ labels w a r, Run (Step Sample.settings) Sample.world labels w ∧
      w.aggregate 10 = some a ∧ a.q.status = .questionnaireInProgress ∧ r ∈ a.reviews ∧
      r.1.status = .pending ∧ r.1.sourceInquiryStateVersion ≠ a.q.stateVersion := by
  have run : Run (Step Sample.settings) Sample.world
      (trace Sample.settings Sample.world answering).1
      (trace Sample.settings Sample.world answering).2 := trace_run (by decide +kernel)
  have outdated : ((trace Sample.settings Sample.world answering).2.aggregate 10).any
      (fun a => decide (a.q.status = .questionnaireInProgress) && a.reviews.any fun r =>
        decide (r.1.status = .pending) &&
          decide (r.1.sourceInquiryStateVersion ≠ a.q.stateVersion)) = true := by decide +kernel
  obtain ⟨a, found, holds⟩ := (Option.any_eq_true _ _).1 outdated
  rw [Bool.and_eq_true, decide_eq_true_eq] at holds
  obtain ⟨r, mem, both⟩ := List.any_eq_true.1 holds.2
  rw [Bool.and_eq_true, decide_eq_true_eq, decide_eq_true_eq] at both
  exact ⟨_, _, a, r, run, found, holds.1, mem, both.1, both.2⟩

end WaterCare.Runtime
