import WaterCare.Runtime.Tables
import WaterCare.Workflow.Guards

/-!
Every service on the shared transaction moves its inquiry along a rule of the
contract: one lemma for the transaction, and one for the mutation of each service.
-/

namespace WaterCare.Runtime
open Machine Workflow Store Service Py Analysis
open WorkflowContract (evaluate_eq_none evaluateGuard_domain evaluateGuard_stateVersion)

/-! ### The guards of a commit -/

section
variable {service : InquiryAction} {request : Request} {w : World} {a b : Aggregate}
  {context : ActionContext} {plan : Plan} {resource : Resource}

namespace Commits

theorem rule_mem (commits : Commits service request w a context plan b resource) :
    plan.rule ∈ shipped.transitions ∧ plan.rule.event = service.event ∧
      plan.rule.source = some a.q.status := by
  obtain ⟨listed, fires, source, _⟩ := resolve_ok commits.resolved
  exact ⟨listed, fires, source⟩

/-- A domain guard of the rule was passed as `True`. -/
theorem domain (commits : Commits service request w a context plan b resource) {guard : GuardId}
    (listed : guard ∈ plan.rule.guardRefs) (core : guard.coreRole = none)
    (notVersion : guard ≠ .stateVersion) (notKey : guard ≠ .idempotencyKey) :
    (service.domainResults a context).lookup guard = some true := by
  obtain ⟨_, _, _, _, passed⟩ := (evaluate_eq_none _).1 commits.passed
  exact (evaluateGuard_domain core notVersion notKey).1 (passed guard listed)

/-- A request with a version guard names the current version. -/
theorem current (commits : Commits service request w a context plan b resource)
    (listed : GuardId.stateVersion ∈ plan.rule.guardRefs) :
    service.requestedVersion = a.q.stateVersion := by
  obtain ⟨_, _, _, _, passed⟩ := (evaluate_eq_none _).1 commits.passed
  obtain ⟨_, _, same⟩ := evaluateGuard_stateVersion.1 (passed _ listed)
  exact Option.some.inj same

/-- The role of the actor is one the event admits. -/
theorem role (commits : Commits service request w a context plan b resource) :
    service.workflowActor.role.actorRole ∈ (shipped.events plan.rule.event).actorRoles := by
  obtain ⟨_, actor, _⟩ := (evaluate_eq_none _).1 commits.passed
  exact ((WorkflowContract.evaluateEventActor_eq_none _).1 actor).2.2

end Commits

/-! ### The transaction -/

/-- Two aggregates with the same inquiry, history, consultations, visits and feedback. -/
structure SameTables (x y : Aggregate) : Prop where
  inquiry : y.inquiry = x.inquiry
  history : y.history = x.history
  consultations : y.consultations = x.consultations
  visits : y.visits = x.visits
  followups : y.followups = x.followups

theorem SameTables.refl (x : Aggregate) : SameTables x x := ⟨rfl, rfl, rfl, rfl, rfl⟩

/-- What a service sets on the inquiry, and that what it does around its mutation
concerns other tables. -/
structure Regular (service : InquiryAction) : Prop where
  settle : ∀ {x y : Aggregate}, service.settle x = .ok y → SameTables x y
  finish : ∀ {plan : Plan} {a x y : Aggregate} {resource : Resource},
    service.finish plan a x resource = .ok y → SameTables x y
  version : ∀ (plan : Plan) (q : Inquiry), (service.apply plan q).stateVersion = plan.version
  status : ∀ (plan : Plan) (q : Inquiry), (service.apply plan q).status = plan.rule.target ∨
    service.event = .claimConsultation ∧ (service.apply plan q).status = q.status
  identity : ∀ (plan : Plan) (q : Inquiry), (service.apply plan q).id = q.id ∧
    (service.apply plan q).subscription = q.subscription ∧
    (service.apply plan q).initiatedBy = q.initiatedBy
  assignment : ∀ (plan : Plan) (q : Inquiry), service.event = .claimConsultation ∨
    (service.apply plan q).assignedUser = q.assignedUser ∧
      (service.apply plan q).assignedRole = q.assignedRole
  records : ∀ rule ∈ shipped.transitions, rule.event = service.event →
    (service.records rule = true ↔ service.event ≠ .submitResolutionFeedback)

/-- What a commit of a regular service has written: the tables of its mutation, the
inquiry with what the service sets, and a row of the history if the rule asks for one. -/
theorem Commits.tables (commits : Commits service request w a context plan b resource)
    (regular : Regular service) :
    ∃ m, service.mutate plan a context w.nextId = .ok (m, resource) ∧
      b.q = service.apply plan m.q ∧ b.consultations = m.consultations ∧ b.visits = m.visits ∧
      b.followups = m.followups ∧
      (service.records plan.rule = true ∧ (∃ row : Stored InquiryHistory,
          b.history = m.history ++ [row] ∧ row.1 = service.historyRow request a context plan) ∨
        service.records plan.rule = false ∧ b.history = m.history) := by
  obtain ⟨m, inquiry, settled, recorded, hm, hq, hs, hr, hf⟩ := write_ok commits.written
  have settles := regular.settle hs
  have finishes := regular.finish hf
  refine ⟨m, hm, ?_⟩
  cases records : service.records plan.rule with
  | true =>
      rw [if_pos records] at hr
      obtain ⟨row, same, _, rfl⟩ := recordHistory_ok.1 hr
      have written : b.inquiry = inquiry := finishes.inquiry.trans settles.inquiry
      refine ⟨(congrArg Subtype.val written).trans hq, ?_, ?_, ?_, .inl ⟨rfl, row, ?_, same⟩⟩
      · exact finishes.consultations.trans settles.consultations
      · exact finishes.visits.trans settles.visits
      · exact finishes.followups.trans settles.followups
      · exact finishes.history.trans (congrArg (· ++ [row]) settles.history)
  | false =>
      rw [if_neg (by rw [records]; exact Bool.false_ne_true)] at hr
      cases hr
      have written : b.inquiry = inquiry := finishes.inquiry.trans settles.inquiry
      refine ⟨(congrArg Subtype.val written).trans hq, ?_, ?_, ?_, .inr ⟨rfl, ?_⟩⟩
      · exact finishes.consultations.trans settles.consultations
      · exact finishes.visits.trans settles.visits
      · exact finishes.followups.trans settles.followups
      · exact finishes.history.trans settles.history

theorem claim_target : ∀ rule ∈ shipped.transitions, rule.event = .claimConsultation →
    rule.source = some rule.target := by
  decide

/-- A commit of a regular service is a transition, whatever its mutation does. -/
theorem Commits.transition (commits : Commits service request w a context plan b resource)
    (regular : Regular service)
    (mutated : ∀ {m : Aggregate} {r : Resource},
      service.mutate plan a context w.nextId = .ok (m, r) →
      Mutated w.nextId (service.apply plan a.q).assignedUser request.now service.event a m) :
    Transition w.nextId request.now service.event plan a b := by
  obtain ⟨m, hm, written, consultations, visits, followups, history⟩ := commits.tables regular
  have rows := mutated hm
  obtain ⟨listed, fires, source⟩ := commits.rule_mem
  have sameQ : m.q = a.q := congrArg Subtype.val rows.inquiry
  rw [sameQ] at written
  refine ⟨commits.resolved, ?_, ?_, ?_, ?_, ?_, ?_, ?_, ?_⟩
  · rw [written]
    rcases regular.status plan a.q with moved | ⟨claimed, kept⟩
    · exact moved
    · rw [kept]
      have stays := claim_target _ listed (fires.trans claimed)
      rw [source] at stays
      exact Option.some.inj stays
  · rw [written]
    exact regular.version plan a.q
  · rw [written]
    exact regular.identity plan a.q
  · rw [written]
    exact regular.assignment plan a.q
  · rw [← rows.history]
    rcases history with ⟨records, row, grown, same⟩ | ⟨quiet, kept⟩
    · refine .inr ⟨(regular.records _ listed fires).1 records, row, grown, ?_⟩
      rw [same]
      exact ⟨fires, rfl, rfl, rfl⟩
    · refine .inl ⟨?_, kept⟩
      by_contra other
      rw [(regular.records _ listed fires).2 other] at quiet
      cases quiet
  · rw [written, consultations]
    exact rows.consultations
  · rw [visits]
    exact rows.visits
  · rw [followups]
    exact rows.followups

end

/-! ### The services are regular -/

section
variable {settings : Settings} {d : Directory} {request : Request}

theorem cancelActiveAiRuns_same {now : Instant} {x y : Aggregate}
    (h : cancelActiveAiRuns now x = .ok y) : SameTables x y := by
  unfold cancelActiveAiRuns at h
  obtain ⟨runs, _, h⟩ := bind_eq_ok.1 h
  cases h
  exact ⟨rfl, rfl, rfl, rfl, rfl⟩

theorem recordVisitAction_same {plan : Plan} {a x y : Aggregate} {resource : Resource}
    (h : AssignedAction.recordVisitAction request plan a x resource = .ok y) : SameTables x y := by
  unfold AssignedAction.recordVisitAction at h
  split at h
  · split at h
    · unfold Aggregate.recordVisitHistory at h
      obtain ⟨row, _, h⟩ := bind_eq_ok.1 h
      split at h
      · cases h
      · cases h
        exact ⟨rfl, rfl, rfl, rfl, rfl⟩
    · cases h
    · cases h
    · cases h
    · cases h
  · cases h
    exact .refl _

/-- A service that saves the state and the version, and nothing around its mutation. -/
theorem regular_of_plain {service : InquiryAction} (apply : service.apply = applyStateTransition)
    (settle : service.settle = .ok) (finish : service.finish = fun _ _ recorded _ => .ok recorded)
    (records : ∀ rule ∈ shipped.transitions, rule.event = service.event →
      (service.records rule = true ↔ service.event ≠ .submitResolutionFeedback)) :
    Regular service where
  settle h := by
    rw [settle] at h
    cases h
    exact .refl _
  finish h := by
    rw [finish] at h
    cases h
    exact .refl _
  version plan q := by
    rw [apply]
    rfl
  status plan q := by
    rw [apply]
    exact .inl rfl
  identity plan q := by
    rw [apply]
    exact ⟨rfl, rfl, rfl⟩
  assignment plan q := by
    rw [apply]
    exact .inr ⟨rfl, rfl⟩
  records := records

theorem records_business : ∀ rule ∈ shipped.transitions, rule.recordBusinessEvent = true := by
  decide

/-- The rules of the resolution services record the state history, except for the feedback. -/
theorem records_state : ∀ rule ∈ shipped.transitions,
    rule.event = .submitResolutionFeedback ∨ rule.event = .customerReportedUnresolved ∨
      rule.event = .resumeConsultation ∨ rule.event = .finalizeInquiry →
    (rule.recordInquiryStateHistory = true ↔ rule.event ≠ .submitResolutionFeedback) := by
  decide

theorem assigned_regular {consultant : User} {inquiry : Nat} {operation : AssignedAction}
    (other : operation.event ≠ .submitResolutionFeedback) :
    Regular (operation.toInquiryAction settings d request consultant inquiry) where
  settle h := by
    cases h
    exact .refl _
  finish h := recordVisitAction_same h
  version _ _ := rfl
  status _ _ := .inl rfl
  identity _ _ := ⟨rfl, rfl, rfl⟩
  assignment _ _ := .inr ⟨rfl, rfl⟩
  records _ _ _ := iff_of_true rfl other

theorem IsAssigned.event_ne {consultant : User} {inquiry : Nat} {operation : AssignedAction}
    (is : IsAssigned settings d request consultant inquiry operation) :
    operation.event ≠ .submitResolutionFeedback := by
  cases is with
  | start | saveSummary | confirmSummary | complete | requestReview | createRequest
  | markNotNeeded | updateSchedule | confirm => exact nofun

theorem resolution_regular {inquiry version : Nat} {config : ActionConfig}
    {body : List (String × Value)} {lock : Inquiry → Bool}
    {prepare : Aggregate → Except Failure ActionContext}
    {domainResults : Aggregate → ActionContext → List (GuardId × Bool)}
    {mutate : Plan → Aggregate → ActionContext → Nat → Except Failure (Aggregate × Resource)}
    {changeReason : ActionContext → Option String}
    (listed : config.eventCode = .submitResolutionFeedback ∨
      config.eventCode = .customerReportedUnresolved ∨ config.eventCode = .resumeConsultation ∨
      config.eventCode = .finalizeInquiry) :
    Regular (ResolutionService.execute settings d request inquiry version config body lock prepare
      domainResults mutate changeReason) := by
  refine regular_of_plain rfl rfl rfl ?_
  intro rule mem fires
  change rule.recordInquiryStateHistory = true ↔ config.eventCode ≠ _
  have fires' : rule.event = config.eventCode := fires
  rw [← fires'] at listed ⊢
  exact records_state rule mem listed

theorem IsService.regular {service : InquiryAction} (is : IsService settings d request service) :
    Regular service := by
  cases is with
  | submitSymptom inquiry version =>
      exact regular_of_plain rfl rfl rfl fun _ _ _ => iff_of_true rfl nofun
  | submitAnswers inquiry version answers =>
      exact regular_of_plain rfl rfl rfl fun rule mem _ =>
        iff_of_true (records_business rule mem) nofun
  | requestConsultation inquiry version =>
      exact regular_of_plain rfl rfl rfl fun rule mem _ =>
        iff_of_true (records_business rule mem) nofun
  | cancel inquiry version cancellation =>
      exact ⟨cancelActiveAiRuns_same, fun h => by cases h; exact .refl _, fun _ _ => rfl,
        fun _ _ => .inl rfl, fun _ _ => ⟨rfl, rfl, rfl⟩, fun _ _ => .inr ⟨rfl, rfl⟩,
        fun _ _ _ => iff_of_true rfl nofun⟩
  | assigned consultant inquiry is => exact assigned_regular is.event_ne
  | submitFeedback inquiry version comment => exact resolution_regular (.inl rfl)
  | reportUnresolved inquiry version reasonCode comment =>
      exact resolution_regular (.inr (.inl rfl))
  | resumeConsultation inquiry version => exact resolution_regular (.inr (.inr (.inl rfl)))
  | finalize inquiry version finalNote => exact resolution_regular (.inr (.inr (.inr rfl)))
  | claim inquiry version =>
      exact ⟨fun h => by cases h; exact .refl _, fun h => by cases h; exact .refl _,
        fun _ _ => rfl, fun _ _ => .inr ⟨rfl, rfl⟩, fun _ _ => ⟨rfl, rfl, rfl⟩,
        fun _ _ => .inl rfl, fun rule mem _ => iff_of_true (records_business rule mem) nofun⟩

end

/-! ### The mutations -/

section
variable {limit : Nat} {assigned : Option Nat} {now : Instant} {event : EventCode}
  {a m : Aggregate} {c row : Stored Consultation}

/-- The events of the consultation alone. -/
def Plain (event : EventCode) : Prop :=
  writesVisit event = false ∧ event ≠ .submitResolutionFeedback ∧
    event ≠ .customerReportedUnresolved

theorem mutated_kept (plain : Plain event) (keeps : keepsConsultations event = true) :
    Mutated limit assigned now event a a where
  inquiry := rfl
  history := rfl
  consultations := .kept fun _ same => .inl (Option.some.inj same ▸ keeps)
  visits := .kept plain.1
  followups := .kept plain.2.1 plain.2.2

theorem Desk.mutated_put (desk : Desk limit a.consultations) (plain : Plain event)
    (latest : a.latestConsultation = some c) (same : row.1.id = c.1.id)
    (edit : Edited assigned now (some event) c.1 row.1) :
    Mutated limit assigned now event a (a.putConsultation row) := by
  obtain ⟨older, split⟩ := desk.latest_some latest
  refine ⟨rfl, rfl, ?_, .kept plain.1, .kept plain.2.1 plain.2.2⟩
  rw [desk.put row split same, split]
  exact .edited older edit

theorem Desk.mutated_add (plain : Plain event)
    (added : Added assigned now limit a.consultations event row.1) :
    Mutated limit assigned now event a
      { a with consultations := a.consultations ++ [row] } where
  inquiry := rfl
  history := rfl
  consultations := .added rfl added
  visits := .kept plain.1
  followups := .kept plain.2.1 plain.2.2

theorem onConsultation_ok {context : ActionContext}
    {mutation : Stored Consultation → Except Failure (Aggregate × Stored Consultation)}
    {r : Resource} (h : ConsultationService.onConsultation context mutation = .ok (m, r)) :
    ∃ c row, context.consultation = some c ∧ mutation c = .ok (m, row) ∧ r = .consultation row := by
  unfold ConsultationService.onConsultation at h
  split at h
  · cases h
  · rename_i c found
    obtain ⟨⟨written, row⟩, mutated, same⟩ := map_eq_ok.1 h
    cases same
    exact ⟨c, row, found, mutated, rfl⟩

theorem Desk.getLast (desk : Desk limit a.consultations)
    {P : Stored Consultation → Prop} (h : ∀ c, a.latestConsultation = some c → P c) :
    ∀ c ∈ a.consultations.getLast?, P c := by
  intro c last
  rcases List.eq_nil_or_concat a.consultations with empty | ⟨older, x, split⟩
  · rw [empty] at last
    cases last
  · rw [List.concat_eq_append] at split
    rw [split, List.getLast?_concat] at last
    cases last
    exact h c (desk.latest_of_concat split)

/-- The request of a consultation, as the mutation of an event that asks for one. -/
theorem Desk.mutated_request (assigned : Option Nat) {d : Directory} {stamp : Stamp}
    (desk : Desk limit a.consultations)
    (plain : Plain event) (asks : asksConsultation event = true)
    (h : ConsultationRepository.request d a stamp a.latestConsultation limit now = .ok (m, row)) :
    Mutated limit assigned now event a m := by
  rcases request_ok h with ⟨c, latest, isPending, same, rfl⟩ | ⟨isSynthetic, closed, same, rfl⟩
  · refine desk.mutated_put plain latest (by rw [same]; rfl) ?_
    rw [same]
    exact Edited.refreshed stamp c.1.aiDraftSummary asks isPending
  · refine Desk.mutated_add plain ?_
    rw [same, desk.lastSequence_eq]
    exact Added.waiting stamp none isSynthetic asks (desk.getLast closed)

/-- A request followed by the attachment of a hand-off to its consultation. -/
theorem Desk.mutated_attached {d : Directory} {stamp : Stamp} {attached : Aggregate}
    {final : Stored Consultation} (desk : Desk limit a.consultations)
    (plain : Plain event) (asks : asksConsultation event = true)
    (h : ConsultationRepository.request d a stamp a.latestConsultation limit now = .ok (m, row))
    (h' : ConsultationHandoffRepository.attachToLatestConsultation m row = .ok (attached, final)) :
    Mutated limit assigned now event a attached := by
  obtain ⟨draft, handoffs, drafted, written⟩ := attachToLatest_ok h'
  rcases written with ⟨rfl, rfl⟩ | rfl
  · obtain ⟨inquiry, history, consultations, visits, followups⟩ :=
      desk.mutated_request assigned plain asks h
    exact ⟨inquiry, history, consultations, visits, followups⟩
  · rcases request_ok h with ⟨c, latest, isPending, same, rfl⟩ | ⟨isSynthetic, closed, same, rfl⟩
    · obtain ⟨older, split⟩ := desk.latest_some latest
      have put := desk.put row split (by rw [same]; rfl)
      refine ⟨rfl, rfl, ?_, .kept plain.1, .kept plain.2.1 plain.2.2⟩
      have desk' : Desk limit (a.putConsultation row).consultations := by
        rw [put]
        have numbered := (split ▸ desk.numbered).change (y := row) (by rw [same]; rfl)
          (by rw [same]; rfl)
        refine ⟨numbered, ?_⟩
        have closed := desk.closed
        rw [split, List.dropLast_concat] at closed
        rwa [List.dropLast_concat]
      have final_put := desk'.put final put (by rw [drafted])
      change Consulted assigned now limit (some event) a.consultations
        ((a.putConsultation row).putConsultation final).consultations
      rw [final_put, split]
      refine .edited older ?_
      rw [drafted, same]
      exact Edited.refreshed stamp draft asks isPending
    · refine ⟨rfl, rfl, ?_, .kept plain.1, .kept plain.2.1 plain.2.2⟩
      have replaced : replaceRow (fun c : Stored Consultation => c.1.id) final
          (a.consultations ++ [row]) = a.consultations ++ [final] := by
        have fresh : ∀ x ∈ a.consultations, x.1.id ≠ final.1.id := by
          intro x mem equal
          have below := desk.numbered.below x mem
          rw [drafted, same] at equal
          exact absurd equal (Nat.ne_of_lt below)
        have own : row.1.id = final.1.id := by rw [drafted]
        unfold replaceRow
        rw [List.map_append, List.map_singleton, if_pos own]
        congr 1
        conv_rhs => rw [← List.map_id a.consultations]
        refine List.map_congr_left ?_
        intro x mem
        exact if_neg (fresh x mem)
      change Consulted assigned now limit (some event) a.consultations
        (replaceRow (fun c : Stored Consultation => c.1.id) final (a.consultations ++ [row]))
      rw [replaced]
      refine .added rfl ?_
      rw [drafted, same, desk.lastSequence_eq]
      exact Added.waiting stamp draft isSynthetic asks (desk.getLast closed)

end

/-! ### The services -/

/-- The domain guards of the rules the services of a consultation pass. -/
theorem consultation_guards : ∀ rule ∈ shipped.transitions,
    (rule.event = .confirmConsultationSummary →
      GuardId.consultationSummaryConfirmable ∈ rule.guardRefs) ∧
    (rule.event = .consultationCompleted →
      GuardId.consultationResultComplete ∈ rule.guardRefs) ∧
    (rule.event = .visitReviewRequired → GuardId.visitReviewPayloadValid ∈ rule.guardRefs) ∧
    (rule.event = .visitNotNeeded →
      GuardId.visitNotNeededResultComplete ∈ rule.guardRefs) := by
  decide

theorem schedule_target : ∀ rule ∈ shipped.transitions,
    (rule.event = .updateVisitSchedule → rule.visit.toStatus? = some .scheduling) ∧
    (rule.event = .confirmVisit → rule.visit.toStatus? = some .confirmed) := by
  decide

theorem nextVisitStatus_of_toStatus {rule : VisitRule} {status : VisitStatus}
    (h : rule.toStatus? = some status) (visit : Option VisitStatus) :
    rule.nextVisitStatus visit = some status := by
  cases rule with
  | create s => exact h
  | transition s t => exact h
  | requireAbsent => cases h
  | preserve => cases h
  | preserveRequireStatus s => cases h

section
variable {settings : Settings} {d : Directory} {request : Request} {w : World} {a b m : Aggregate}
  {context : ActionContext} {plan : Plan} {resource r : Resource} {consultant : User}
  {inquiry : Nat}

theorem onVisit_ok {mutation : Stored Visit → VisitStatus → Except Failure (Aggregate × Stored Visit)}
    (h : VisitService.onVisit plan context mutation = .ok (m, r)) :
    ∃ v status row, context.visit = some v ∧ plan.visitStatus = some status ∧
      mutation v status = .ok (m, row) ∧ r = .visit row := by
  unfold VisitService.onVisit at h
  split at h
  · rename_i v status found planned
    obtain ⟨⟨written, row⟩, mutated, same⟩ := map_eq_ok.1 h
    cases same
    exact ⟨v, status, row, found, planned, mutated, rfl⟩
  · cases h

theorem mutated_visit {limit : Nat} {assigned : Option Nat} {now : Instant} {event : EventCode}
    {v row : Stored Visit} {visit : Nat} (keeps : keepsConsultations event = true)
    (found : VisitRepository.lockByPublicId a visit = some v) (sameId : row.1.id = v.1.id)
    (sameTime : row.1.createdAt = v.1.createdAt)
    (status : event = .updateVisitSchedule ∧ row.1.status = .scheduling ∨
      event = .confirmVisit ∧ row.1.status = .confirmed) :
    Mutated limit assigned now event a (a.putVisit row) where
  inquiry := rfl
  history := rfl
  consultations := .kept fun _ same => .inl (Option.some.inj same ▸ keeps)
  visits := .updated (List.mem_of_find?_eq_some found) sameId sameTime status
  followups := by
    rcases status with ⟨rfl, _⟩ | ⟨rfl, _⟩
    · exact .kept nofun nofun
    · exact .kept nofun nofun

theorem IsAssigned.mutated {operation : AssignedAction}
    (is : IsAssigned settings d request consultant inquiry operation)
    (commits : Commits (operation.toInquiryAction settings d request consultant inquiry) request w a
      context plan b resource)
    (desk : Desk w.nextId a.consultations)
    (h : operation.mutate plan a context w.nextId = .ok (m, r)) :
    Mutated w.nextId a.q.assignedUser request.now operation.event a m := by
  have prepared : operation.context a = context := Except.ok.inj commits.prepared
  obtain ⟨listed, fires, _⟩ := commits.rule_mem
  obtain ⟨confirmable, complete, reviewable, notNeeded⟩ := consultation_guards _ listed
  cases is with
  | start version =>
      obtain ⟨⟨written, row⟩, started, same⟩ := map_eq_ok.1 h
      cases same
      subst prepared
      have assignedTo : (decide (a.q.assignedUser = some consultant.id) && _ && _) = true :=
        commits.locked
      rw [Bool.and_eq_true, Bool.and_eq_true, decide_eq_true_eq] at assignedTo
      rcases start_ok started with ⟨c, latest, isPending, same, rfl⟩ | ⟨idle, same, rfl⟩
      · refine desk.mutated_put ⟨rfl, nofun, nofun⟩ latest (by rw [same]; rfl) ?_
        rw [same, assignedTo.1.1]
        exact .started _ isPending
      · refine Desk.mutated_add ⟨rfl, nofun, nofun⟩ ?_
        rw [same, desk.lastSequence_eq, assignedTo.1.1]
        exact .running _ (desk.getLast idle)
  | saveSummary version values =>
      obtain ⟨c, row, latest, saved, _⟩ := onConsultation_ok h
      subst prepared
      obtain ⟨same, rfl⟩ := consultation_update_ok.1 saved
      refine desk.mutated_put ⟨rfl, nofun, nofun⟩ latest (by rw [same]; rfl) ?_
      rw [same]
      exact .summarized _ values
  | confirmSummary version =>
      obtain ⟨c, row, latest, saved, _⟩ := onConsultation_ok h
      subst prepared
      obtain ⟨same, rfl⟩ := consultation_update_ok.1 saved
      have passed : some (Option.any (fun c : Stored Consultation =>
          hasText c.1.summary && c.1.summaryConfirmedAt.isNone) a.latestConsultation) = some true :=
        commits.domain (confirmable fires) rfl nofun nofun
      have latest' : a.latestConsultation = some c := latest
      rw [latest', Option.some.injEq, Option.any_some, Bool.and_eq_true,
        Option.isNone_iff_eq_none] at passed
      refine desk.mutated_put ⟨rfl, nofun, nofun⟩ latest (by rw [same]; rfl) ?_
      rw [same]
      exact .confirmed _ passed.1 passed.2
  | complete version =>
      obtain ⟨c, row, latest, saved, _⟩ := onConsultation_ok h
      subst prepared
      obtain ⟨same, rfl⟩ := consultation_update_ok.1 saved
      have passed : some (Option.any (fun c : Stored Consultation =>
          c.1.outcome != .pending && isFilled c.1.confirmedSummary &&
            c.1.summaryConfirmedAt.isSome && c.1.completedAt.isNone) a.latestConsultation) =
          some true := commits.domain (complete fires) rfl nofun nofun
      have latest' : a.latestConsultation = some c := latest
      rw [latest', Option.some.injEq, Option.any_some, Bool.and_eq_true, Bool.and_eq_true,
        Bool.and_eq_true, bne_iff_ne, Option.isNone_iff_eq_none] at passed
      obtain ⟨⟨⟨outcome, filled⟩, confirmed⟩, open_⟩ := passed
      refine desk.mutated_put ⟨rfl, nofun, nofun⟩ latest (by rw [same]; rfl) ?_
      rw [same]
      exact .completed _ outcome filled confirmed open_
  | requestReview version reason =>
      obtain ⟨c, row, latest, saved, _⟩ := onConsultation_ok h
      subst prepared
      obtain ⟨same, rfl⟩ := consultation_update_ok.1 saved
      have passed : some (Option.any (fun c : Stored Consultation =>
          decide (c.1.outcome = .visitRequired) && isFilled c.1.confirmedSummary)
            a.latestConsultation && a.latestVisit.isNone) = some true :=
        commits.domain (reviewable fires) rfl nofun nofun
      have latest' : a.latestConsultation = some c := latest
      rw [latest', Option.some.injEq, Option.any_some, Bool.and_eq_true, Bool.and_eq_true,
        decide_eq_true_eq] at passed
      refine desk.mutated_put ⟨rfl, nofun, nofun⟩ latest (by rw [same]; rfl) ?_
      rw [same]
      exact .reviewed _ _ _ passed.1.1 passed.1.2
  | createRequest version values sent =>
      subst prepared
      dsimp only [VisitService.createRequest, VisitService.executeInquiryAction] at h
      split at h
      · cases h
      · obtain ⟨⟨written, v⟩, created, same⟩ := map_eq_ok.1 h
        cases same
        obtain ⟨id, status, open_, time, reports, rfl⟩ := visit_create_ok created
        exact ⟨rfl, rfl, .kept fun _ same => .inl (Option.some.inj same ▸ rfl),
          .created id status open_ time, .kept nofun nofun⟩
  | markNotNeeded version reason =>
      obtain ⟨c, row, latest, saved, _⟩ := onConsultation_ok h
      subst prepared
      obtain ⟨same, rfl⟩ := consultation_update_ok.1 saved
      have passed : some (Option.any (fun c : Stored Consultation =>
          decide (c.1.outcome = .visitRequired) && isFilled c.1.confirmedSummary &&
            c.1.summaryConfirmedAt.isSome) a.latestConsultation && a.latestVisit.isNone) =
          some true := commits.domain (notNeeded fires) rfl nofun nofun
      have latest' : a.latestConsultation = some c := latest
      rw [latest', Option.some.injEq, Option.any_some, Bool.and_eq_true, Bool.and_eq_true,
        Bool.and_eq_true, decide_eq_true_eq] at passed
      obtain ⟨⟨⟨outcome, filled⟩, confirmed⟩, _⟩ := passed
      refine desk.mutated_put ⟨rfl, nofun, nofun⟩ latest (by rw [same]; rfl) ?_
      rw [same]
      exact .notNeeded _ _ _ outcome filled confirmed
  | updateSchedule visit version values =>
      obtain ⟨v, status, row, found, planned, saved, _⟩ := onVisit_ok h
      subst prepared
      obtain ⟨_, _, _, _, next, _⟩ := resolve_ok commits.resolved
      rw [nextVisitStatus_of_toStatus ((schedule_target _ listed).1 fires), planned] at next
      cases next
      split at saved
      · cases saved
      · obtain ⟨same, rfl⟩ := visit_update_ok.1 saved
        refine mutated_visit rfl found (by rw [same]; dsimp only; split <;> rfl)
          (by rw [same]; dsimp only; split <;> rfl) (.inl ⟨rfl, by rw [same]⟩)
  | confirm visit version =>
      obtain ⟨v, status, row, found, planned, saved, _⟩ := onVisit_ok h
      subst prepared
      obtain ⟨_, _, _, _, next, _⟩ := resolve_ok commits.resolved
      rw [nextVisitStatus_of_toStatus ((schedule_target _ listed).2 fires), planned] at next
      cases next
      unfold VisitRepository.confirm at saved
      split at saved
      · cases saved
      · obtain ⟨same, rfl⟩ := visit_update_ok.1 saved
        exact mutated_visit rfl found (by rw [same]) (by rw [same]) (.inr ⟨rfl, by rw [same]⟩)

theorem answerQuestions_ok {answers : List FollowUpAnswerItem} {actor : User}
    {questions : List InquiryQA} (h : answerQuestions d actor answers a questions = .ok m) :
    ∃ answered, m = { a with questions := answered } := by
  induction questions generalizing a with
  | nil =>
      cases h
      exact ⟨m.questions, rfl⟩
  | cons question rest ih =>
      unfold answerQuestions at h
      split at h
      · cases h
      · obtain ⟨written, created, h⟩ := bind_eq_ok.1 h
        unfold createFollowupAnswer at created
        dsimp only at created
        split at created
        · cases created
          obtain ⟨answered, rfl⟩ := ih h
          exact ⟨answered, rfl⟩
        · cases created

theorem onHandling_ok {mutation : CompletedHandling → Except Failure (Aggregate × Resource)}
    (h : ResolutionService.onHandling context mutation = .ok (m, r)) :
    ∃ handling, context.handling = some handling ∧ mutation handling = .ok (m, r) := by
  unfold ResolutionService.onHandling at h
  split at h
  · cases h
  · rename_i handling found
    exact ⟨handling, found, h⟩

theorem mutated_feedback {limit : Nat} {assigned : Option Nat} {now : Instant} {event : EventCode}
    {f : Stored FollowupConfirmation} (keeps : keepsConsultations event = true)
    (plain : writesVisit event = false) (id : f.1.id = limit) (time : f.1.createdAt = now)
    (status : event = .submitResolutionFeedback ∧ f.1.resolutionStatus = .resolved ∨
      event = .customerReportedUnresolved ∧ f.1.resolutionStatus = .reopened) :
    Mutated limit assigned now event a { a with followups := a.followups ++ [f] } where
  inquiry := rfl
  history := rfl
  consultations := .kept fun _ same => .inl (Option.some.inj same ▸ keeps)
  visits := .kept plain
  followups := .added id time status

/-- A commit of any service moves the inquiry along its rule. -/
theorem IsService.transition {service : InquiryAction}
    (is : IsService settings d request service)
    (commits : Commits service request w a context plan b resource)
    (desk : Desk w.nextId a.consultations) :
    Transition w.nextId request.now service.event plan a b := by
  refine commits.transition is.regular ?_
  intro m r h
  cases is with
  | submitSymptom inquiry version =>
      cases h
      exact mutated_kept ⟨rfl, nofun, nofun⟩ rfl
  | submitAnswers inquiry version answers =>
      obtain ⟨written, answered, same⟩ := map_eq_ok.1 h
      cases same
      obtain ⟨questions, rfl⟩ := answerQuestions_ok answered
      exact ⟨rfl, rfl, .kept fun _ same => .inl (Option.some.inj same ▸ rfl), .kept rfl,
        .kept nofun nofun⟩
  | requestConsultation inquiry version =>
      have prepared := Except.ok.inj commits.prepared
      subst prepared
      obtain ⟨⟨requested, row⟩, asked, h⟩ := bind_eq_ok.1 h
      obtain ⟨⟨attached, final⟩, linked, h⟩ := bind_eq_ok.1 h
      cases h
      exact desk.mutated_attached ⟨rfl, nofun, nofun⟩ rfl asked linked
  | cancel inquiry version cancellation =>
      obtain ⟨written, cancelled, same⟩ := map_eq_ok.1 h
      cases same
      rcases cancelActive_ok cancelled with ⟨idle, rfl⟩ | ⟨c, row, mem, active, same, rfl⟩
      · exact ⟨rfl, rfl, .kept fun _ same => .inr ⟨(Option.some.inj same).symm, idle⟩, .kept rfl,
          .kept nofun nofun⟩
      · obtain ⟨older, split⟩ := desk.active_last mem active
        refine desk.mutated_put ⟨rfl, nofun, nofun⟩ (desk.latest_of_concat split)
          (by rw [same]; rfl) ?_
        rw [same]
        exact .cancelled _ active
  | assigned consultant inquiry is => exact is.mutated commits desk h
  | submitFeedback inquiry version comment =>
      obtain ⟨handling, _, created⟩ := onHandling_ok h
      obtain ⟨⟨written, f⟩, stored, same⟩ := map_eq_ok.1 created
      cases same
      obtain ⟨id, status, time, _, _, _, rfl⟩ := createFeedback_ok stored
      exact mutated_feedback rfl rfl id time (.inl ⟨rfl, status⟩)
  | reportUnresolved inquiry version reasonCode comment =>
      obtain ⟨handling, _, created⟩ := onHandling_ok h
      obtain ⟨⟨written, f⟩, stored, same⟩ := map_eq_ok.1 created
      cases same
      obtain ⟨id, status, time, _, _, _, rfl⟩ := createFeedback_ok stored
      exact mutated_feedback rfl rfl id time (.inr ⟨rfl, status⟩)
  | resumeConsultation inquiry version =>
      obtain ⟨⟨written, row⟩, asked, same⟩ := map_eq_ok.1 h
      cases same
      exact desk.mutated_request _ ⟨rfl, nofun, nofun⟩ rfl asked
  | finalize inquiry version finalNote =>
      cases h
      exact mutated_kept ⟨rfl, nofun, nofun⟩ rfl
  | claim inquiry version =>
      obtain ⟨c, row, latest, claimed, _⟩ := onConsultation_ok h
      have found : a.latestConsultation = some c := by
        have prepared := commits.prepared
        dsimp only [ConsultationClaimService.action] at prepared
        split at prepared
        · cases prepared
          exact latest
        · cases prepared
      obtain ⟨waiting, unassigned, same, rfl⟩ := claim_repository_ok claimed
      refine desk.mutated_put ⟨rfl, nofun, nofun⟩ found (by rw [same]; rfl) ?_
      rw [same]
      exact .claimed _ waiting unassigned

end

end WaterCare.Runtime
